import Scaffold.Project.Template

/-!
# The server and its logger

The entry point of the generated server, its module file and its logger.
-/

namespace Scaffold.ProjectText

def goMod : Template := [
  .text "module ",
  .moduleName,
  .lines [
    "",
    "",
    "go 1.21",
    "",
    "require (",
    "\tgithub.com/gofiber/fiber/v2 v2.52.0",
    "\tgithub.com/golang-jwt/jwt/v5 v5.2.0",
    "\tgithub.com/mattn/go-sqlite3 v1.14.19",
    "\tgithub.com/joho/godotenv v1.5.1",
    "\tgolang.org/x/crypto v0.18.0",
    "\tgithub.com/google/uuid v1.5.0",
    ")",
    ""]]

def entryPoint : Template := [
  .lines [
    "package main",
    "",
    "import (",
    "\t\"log\"",
    "\t\"os\"",
    "\t\"os/signal\"",
    "\t\"syscall\"",
    "",
    "\t\""],
  .moduleName,
  .lines [
    "/internal/config\"",
    "\t\""],
  .moduleName,
  .lines [
    "/internal/database\"",
    "\t\""],
  .moduleName,
  .lines [
    "/internal/routes\"",
    "\t\""],
  .moduleName,
  .lines [
    "/pkg/logger\"",
    "",
    "\t\"github.com/gofiber/fiber/v2\"",
    "\t\"github.com/gofiber/fiber/v2/middleware/cors\"",
    "\t\"github.com/gofiber/fiber/v2/middleware/recover\"",
    ")",
    "",
    "func main() \x7b",
    "\t// Load configuration",
    "\tcfg := config.Load()",
    "",
    "\t// Initialize logger",
    "\tlogger.Init(cfg.Server.Env)",
    "",
    "\t// Initialize database",
    "\tdb, err := database.Connect(cfg.Database.Path)",
    "\tif err != nil \x7b",
    "\t\tlog.Fatalf(\"Failed to connect to database: %v\", err)",
    "\t\x7d",
    "\tdefer db.Close()",
    "",
    "\t// Run migrations",
    "\tif err := database.RunMigrations(db); err != nil \x7b",
    "\t\tlog.Fatalf(\"Failed to run migrations: %v\", err)",
    "\t\x7d",
    "",
    "\t// Create Fiber app",
    "\tapp := fiber.New(fiber.Config\x7b",
    "\t\tErrorHandler: customErrorHandler,",
    "\t\tBodyLimit:    1 * 1024 * 1024, // 1MB",
    "\t\x7d)",
    "",
    "\t// Global middleware",
    "\tapp.Use(recover.New())",
    "\tapp.Use(cors.New(cors.Config\x7b",
    "\t\tAllowOrigins:     cfg.Security.AllowedOrigins,",
    "\t\tAllowCredentials: true,",
    "\t\tAllowHeaders:     \"Origin, Content-Type, Accept, Authorization, X-API-Key, X-CSRF-Token\",",
    "\t\tAllowMethods:     \"GET, POST, PUT, DELETE, PATCH, OPTIONS\",",
    "\t\x7d))",
    "",
    "\t// Health check",
    "\tapp.Get(\"/health\", func(c *fiber.Ctx) error \x7b",
    "\t\treturn c.JSON(fiber.Map\x7b",
    "\t\t\t\"status\": \"ok\",",
    "\t\t\t\"env\":    cfg.Server.Env,",
    "\t\t\x7d)",
    "\t\x7d)",
    "",
    "\t// Setup routes",
    "\troutes.Setup(app, db, cfg)",
    "",
    "\t// Graceful shutdown",
    "\tgo func() \x7b",
    "\t\tsigChan := make(chan os.Signal, 1)",
    "\t\tsignal.Notify(sigChan, os.Interrupt, syscall.SIGTERM)",
    "\t\t<-sigChan",
    "",
    "\t\tlogger.Info(\"Shutting down gracefully...\")",
    "\t\tapp.Shutdown()",
    "\t\x7d()",
    "",
    "\t// Start server",
    "\taddr := cfg.Server.Host + \":\" + cfg.Server.Port",
    "\tlogger.Info(\"Server starting on \" + addr)",
    "",
    "\tif err := app.Listen(addr); err != nil \x7b",
    "\t\tlog.Fatalf(\"Failed to start server: %v\", err)",
    "\t\x7d",
    "\x7d",
    "",
    "func customErrorHandler(c *fiber.Ctx, err error) error \x7b",
    "\tcode := fiber.StatusInternalServerError",
    "",
    "\tif e, ok := err.(*fiber.Error); ok \x7b",
    "\t\tcode = e.Code",
    "\t\x7d",
    "",
    "\treturn c.Status(code).JSON(fiber.Map\x7b",
    "\t\t\"success\": false,",
    "\t\t\"message\": err.Error(),",
    "\t\x7d)",
    "\x7d",
    ""]]

def logger : Template := [
  .lines [
    "package logger",
    "",
    "import (",
    "\t\"log\"",
    "\t\"os\"",
    ")",
    "",
    "var (",
    "\tinfoLogger  *log.Logger",
    "\terrorLogger *log.Logger",
    ")",
    "",
    "func Init(env string) \x7b",
    "\tinfoLogger = log.New(os.Stdout, \"INFO: \", log.Ldate|log.Ltime|log.Lshortfile)",
    "\terrorLogger = log.New(os.Stderr, \"ERROR: \", log.Ldate|log.Ltime|log.Lshortfile)",
    "\x7d",
    "",
    "func Info(v ...interface\x7b\x7d) \x7b",
    "\tinfoLogger.Println(v...)",
    "\x7d",
    "",
    "func Error(v ...interface\x7b\x7d) \x7b",
    "\terrorLogger.Println(v...)",
    "\x7d",
    ""]]

end Scaffold.ProjectText
