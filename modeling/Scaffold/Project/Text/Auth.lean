import Scaffold.Project.Template

/-!
# Authentication

The handlers and the middleware by which accounts log in.
-/

namespace Scaffold.ProjectText

def authMiddleware : Template := [
  .lines [
    "package middleware",
    "",
    "import (",
    "\t\"strings\"",
    "",
    "\t\"github.com/gofiber/fiber/v2\"",
    "\t\"github.com/golang-jwt/jwt/v5\"",
    ")",
    "",
    "type JWTClaims struct \x7b",
    "\tUserID   int    `json:\"user_id\"`",
    "\tUsername string `json:\"username\"`",
    "\tRole     string `json:\"role\"`",
    "\tjwt.RegisteredClaims",
    "\x7d",
    "",
    "func AuthMiddleware(secret string) fiber.Handler \x7b",
    "\treturn func(c *fiber.Ctx) error \x7b",
    "\t\t// Get token from header",
    "\t\tauthHeader := c.Get(\"Authorization\")",
    "\t\tif authHeader == \"\" \x7b",
    "\t\t\t// Try cookie",
    "\t\t\ttoken := c.Cookies(\"token\")",
    "\t\t\tif token == \"\" \x7b",
    "\t\t\t\treturn c.Status(fiber.StatusUnauthorized).JSON(fiber.Map\x7b",
    "\t\t\t\t\t\"success\": false,",
    "\t\t\t\t\t\"message\": \"Unauthorized - No token provided\",",
    "\t\t\t\t\x7d)",
    "\t\t\t\x7d",
    "\t\t\tauthHeader = \"Bearer \" + token",
    "\t\t\x7d",
    "",
    "\t\t// Extract token",
    "\t\tparts := strings.Split(authHeader, \" \")",
    "\t\tif len(parts) != 2 || parts[0] != \"Bearer\" \x7b",
    "\t\t\treturn c.Status(fiber.StatusUnauthorized).JSON(fiber.Map\x7b",
    "\t\t\t\t\"success\": false,",
    "\t\t\t\t\"message\": \"Invalid authorization header\",",
    "\t\t\t\x7d)",
    "\t\t\x7d",
    "",
    "\t\ttokenString := parts[1]",
    "",
    "\t\t// Parse and validate token",
    "\t\ttoken, err := jwt.ParseWithClaims(tokenString, &JWTClaims\x7b\x7d, func(token *jwt.Token) (interface\x7b\x7d, error) \x7b",
    "\t\t\tif _, ok := token.Method.(*jwt.SigningMethodHMAC); !ok \x7b",
    "\t\t\t\treturn nil, jwt.ErrSignatureInvalid",
    "\t\t\t\x7d",
    "\t\t\treturn []byte(secret), nil",
    "\t\t\x7d)",
    "",
    "\t\tif err != nil || !token.Valid \x7b",
    "\t\t\treturn c.Status(fiber.StatusUnauthorized).JSON(fiber.Map\x7b",
    "\t\t\t\t\"success\": false,",
    "\t\t\t\t\"message\": \"Invalid or expired token\",",
    "\t\t\t\x7d)",
    "\t\t\x7d",
    "",
    "\t\t// Store claims in context",
    "\t\tif claims, ok := token.Claims.(*JWTClaims); ok \x7b",
    "\t\t\tc.Locals(\"user_id\", claims.UserID)",
    "\t\t\tc.Locals(\"username\", claims.Username)",
    "\t\t\tc.Locals(\"role\", claims.Role)",
    "\t\t\x7d",
    "",
    "\t\treturn c.Next()",
    "\t\x7d",
    "\x7d",
    ""]]

def authHandler : Template := [
  .lines [
    "package handlers",
    "",
    "import (",
    "\t\"database/sql\"",
    "\t\"time\"",
    "",
    "\t\""],
  .moduleName,
  .lines [
    "/internal/config\"",
    "\t\""],
  .moduleName,
  .lines [
    "/internal/models\"",
    "",
    "\t\"github.com/gofiber/fiber/v2\"",
    "\t\"github.com/golang-jwt/jwt/v5\"",
    "\t\"golang.org/x/crypto/bcrypt\"",
    ")",
    "",
    "type AuthHandler struct \x7b",
    "\tdb  *sql.DB",
    "\tcfg *config.Config",
    "\x7d",
    "",
    "func NewAuthHandler(db *sql.DB, cfg *config.Config) *AuthHandler \x7b",
    "\treturn &AuthHandler\x7bdb: db, cfg: cfg\x7d",
    "\x7d",
    "",
    "func (h *AuthHandler) Login(c *fiber.Ctx) error \x7b",
    "\tvar req models.LoginRequest",
    "\tif err := c.BodyParser(&req); err != nil \x7b",
    "\t\treturn c.Status(fiber.StatusBadRequest).JSON(fiber.Map\x7b",
    "\t\t\t\"success\": false,",
    "\t\t\t\"message\": \"Invalid request body\",",
    "\t\t\x7d)",
    "\t\x7d",
    "",
    "\t// Get user from database",
    "\tvar user models.User",
    "\terr := h.db.QueryRow(",
    "\t\t\"SELECT id, username, password_hash, role FROM users WHERE username = ?\",",
    "\t\treq.Username,",
    "\t).Scan(&user.ID, &user.Username, &user.PasswordHash, &user.Role)",
    "",
    "\tif err == sql.ErrNoRows \x7b",
    "\t\treturn c.Status(fiber.StatusUnauthorized).JSON(fiber.Map\x7b",
    "\t\t\t\"success\": false,",
    "\t\t\t\"message\": \"Invalid credentials\",",
    "\t\t\x7d)",
    "\t\x7d",
    "",
    "\tif err != nil \x7b",
    "\t\treturn c.Status(fiber.StatusInternalServerError).JSON(fiber.Map\x7b",
    "\t\t\t\"success\": false,",
    "\t\t\t\"message\": \"Database error\",",
    "\t\t\x7d)",
    "\t\x7d",
    "",
    "\t// Verify password",
    "\tif err := bcrypt.CompareHashAndPassword([]byte(user.PasswordHash), []byte(req.Password)); err != nil \x7b",
    "\t\treturn c.Status(fiber.StatusUnauthorized).JSON(fiber.Map\x7b",
    "\t\t\t\"success\": false,",
    "\t\t\t\"message\": \"Invalid credentials\",",
    "\t\t\x7d)",
    "\t\x7d",
    "",
    "\t// Generate JWT token",
    "\tclaims := jwt.MapClaims\x7b",
    "\t\t\"user_id\":  user.ID,",
    "\t\t\"username\": user.Username,",
    "\t\t\"role\":     user.Role,",
    "\t\t\"exp\":      time.Now().Add(24 * time.Hour).Unix(),",
    "\t\x7d",
    "",
    "\ttoken := jwt.NewWithClaims(jwt.SigningMethodHS256, claims)",
    "\ttokenString, err := token.SignedString([]byte(h.cfg.JWT.Secret))",
    "\tif err != nil \x7b",
    "\t\treturn c.Status(fiber.StatusInternalServerError).JSON(fiber.Map\x7b",
    "\t\t\t\"success\": false,",
    "\t\t\t\"message\": \"Failed to generate token\",",
    "\t\t\x7d)",
    "\t\x7d",
    "",
    "\t// Set cookie",
    "\tc.Cookie(&fiber.Cookie\x7b",
    "\t\tName:     \"token\",",
    "\t\tValue:    tokenString,",
    "\t\tHTTPOnly: true,",
    "\t\tSecure:   h.cfg.Server.Env == \"production\",",
    "\t\tSameSite: \"Lax\",",
    "\t\tMaxAge:   86400,",
    "\t\x7d)",
    "",
    "\treturn c.JSON(fiber.Map\x7b",
    "\t\t\"success\": true,",
    "\t\t\"token\":   tokenString,",
    "\t\t\"user\": fiber.Map\x7b",
    "\t\t\t\"id\":       user.ID,",
    "\t\t\t\"username\": user.Username,",
    "\t\t\t\"role\":     user.Role,",
    "\t\t\x7d,",
    "\t\x7d)",
    "\x7d",
    "",
    "func (h *AuthHandler) Logout(c *fiber.Ctx) error \x7b",
    "\tc.Cookie(&fiber.Cookie\x7b",
    "\t\tName:     \"token\",",
    "\t\tValue:    \"\",",
    "\t\tHTTPOnly: true,",
    "\t\tMaxAge:   -1,",
    "\t\x7d)",
    "",
    "\treturn c.JSON(fiber.Map\x7b",
    "\t\t\"success\": true,",
    "\t\t\"message\": \"Logged out successfully\",",
    "\t\x7d)",
    "\x7d",
    "",
    "func (h *AuthHandler) Verify(c *fiber.Ctx) error \x7b",
    "\tuserID := c.Locals(\"user_id\")",
    "\tusername := c.Locals(\"username\")",
    "\trole := c.Locals(\"role\")",
    "",
    "\treturn c.JSON(fiber.Map\x7b",
    "\t\t\"success\": true,",
    "\t\t\"user\": fiber.Map\x7b",
    "\t\t\t\"id\":       userID,",
    "\t\t\t\"username\": username,",
    "\t\t\t\"role\":     role,",
    "\t\t\x7d,",
    "\t\x7d)",
    "\x7d",
    ""]]

end Scaffold.ProjectText
