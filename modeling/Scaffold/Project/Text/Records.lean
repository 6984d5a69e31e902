import Scaffold.Project.Template

/-!
# Record types

The types of the records that the server keeps.
-/

namespace Scaffold.ProjectText

def user : Template := [
  .lines [
    "package models",
    "",
    "import \"time\"",
    "",
    "type User struct \x7b",
    "\tID           int       `json:\"id\" db:\"id\"`",
    "\tUsername     string    `json:\"username\" db:\"username\"`",
    "\tPasswordHash string    `json:\"-\" db:\"password_hash\"`",
    "\tRole         string    `json:\"role\" db:\"role\"`",
    "\tCreatedAt    time.Time `json:\"created_at\" db:\"created_at\"`",
    "\x7d",
    "",
    "type LoginRequest struct \x7b",
    "\tUsername string `json:\"username\" validate:\"required\"`",
    "\tPassword string `json:\"password\" validate:\"required\"`",
    "\x7d",
    "",
    "type LoginResponse struct \x7b",
    "\tSuccess bool   `json:\"success\"`",
    "\tToken   string `json:\"token,omitempty\"`",
    "\tMessage string `json:\"message,omitempty\"`",
    "\x7d",
    ""]]

def camera : Template := [
  .lines [
    "package models",
    "",
    "import \"time\"",
    "",
    "type Camera struct \x7b",
    "\tID             int       `json:\"id\" db:\"id\"`",
    "\tName           string    `json:\"name\" db:\"name\"`",
    "\tPrivateRTSPURL string    `json:\"private_rtsp_url,omitempty\" db:\"private_rtsp_url\"`",
    "\tDescription    string    `json:\"description\" db:\"description\"`",
    "\tLocation       string    `json:\"location\" db:\"location\"`",
    "\tGroupName      string    `json:\"group_name\" db:\"group_name\"`",
    "\tAreaID         *int      `json:\"area_id\" db:\"area_id\"`",
    "\tEnabled        bool      `json:\"enabled\" db:\"enabled\"`",
    "\tStreamKey      string    `json:\"stream_key\" db:\"stream_key\"`",
    "\tCreatedAt      time.Time `json:\"created_at\" db:\"created_at\"`",
    "\tUpdatedAt      time.Time `json:\"updated_at\" db:\"updated_at\"`",
    "\x7d",
    ""]]

end Scaffold.ProjectText
