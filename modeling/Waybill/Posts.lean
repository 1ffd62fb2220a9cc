import Waybill.Code.TypeExpr.Schema
import Waybill.Service

/-!
# The posts service

A service of every kind of operation: with defaults, with data, uploads and raw texts as bodies,
with arguments in the query and in headers, and with all forms of what a call returns.

## Main definitions

* `Waybill.Posts.baseUrl`, `Waybill.Posts.declaration`, `Waybill.Posts.service?` — the service.
* `Waybill.Posts.post`, `Waybill.Posts.login`, `Waybill.Posts.schema` — its records.
-/

namespace Waybill.Posts

/-- The base URL of the service. -/
def baseUrl : String := "https://jsonplaceholder.typicode.com"

/-- The operations of the service. -/
def operations : List String := [
  "#[get(\"/posts/\x7bid=2\x7d\")] " ++
    "async fn get_post(&self, id: u64) -> Result<Post>;",
  "#[get(\"/posts/\x7bid=4\x7d/comments/\x7bcomment_id=2\x7d\")] " ++
    "async fn get_certain_comment(&self, id: u64, comment_id: u64) -> " ++
    "Result<Vec<Value>>;",
  "#[post(\"/posts\")] #[headers(\"Content-Type\" = \"application/json\")] " ++
    "#[body(\"model\")] " ++
    "async fn add_post(&self, model: Post) -> Result<Post>;",
  "#[put(\"/posts/\x7bid\x7d\")] #[headers(\"content-type\" = \"application/json; " ++
    "charset=utf-8\", X_Trace = \"1\")] #[body(\"model\")] " ++
    "async fn update_post(&self, id: u64, model: Post) -> Result<Post>;",
  "#[get(\"/posts/\")] " ++
    "async fn get_non_throwing_posts(&self) -> Option<Vec<Post>>;",
  "#[get(\"posts\")] " ++
    "async fn get_no_response_posts(&self) -> Result<()>;",
  "#[get(\"/posts/\x7bid\x7d\")] " ++
    "async fn get_nullable_post(&self, id: Option<u64>) -> Result<Post>;",
  "#[get(\"/posts/\x7bid\x7d\")] " ++
    "async fn get_post_with_query_item(&self, id: u64, #[query(\"boolVal\")] bool_val: " ++
    "bool, #[query(\"intVal\")] int_val: i32, #[query(\"stringVal\")] string_val: String) " ++
    "-> Result<Post>;",
  "#[get(\"/posts\")] " ++
    "async fn search_posts(&self, #[query] tag: Vec<String>, #[query] page: Option<u32>) " ++
    "-> Result<Vec<Post>>;",
  "#[get(\"/posts/\x7bid\x7d\")] " ++
    "async fn find_post(&self, id: u64) -> Result<Option<Post>>;",
  "#[delete(\"/posts/\x7bid\x7d\")] " ++
    "async fn delete_post(&self, id: u64, #[header(\"X-Request-Id\")] request_id: String) " ++
    "-> Result<()>;",
  "#[post(\"/login\")] #[headers(\"Content-Type\" = " ++
    "\"application/x-www-form-urlencoded\")] #[body(\"login\")] " ++
    "async fn login(&self, login: Login) -> Result<()>;",
  "#[post(\"/file\")] #[body(\"data\")] #[file_upload(name = \"document\", file_name = " ++
    "\"report.pdf\")] " ++
    "async fn upload_file(&self, data: Vec<u8>) -> Result<()>;",
  "#[http(\"PATCH /notes/\x7bid=draft\x7d/\x7blang=en\x7d\")] " ++
    "#[headers(\"Content-Type\" = \"text/plain\", Accept = \"*/*\")] #[body(\"text\")] " ++
    "async fn put_raw(&self, id: String, #[path(\"lang\")] language: Option<String>, " ++
    "text: String, #[header(\"accept\")] accept: Option<String>, #[query] ratio: f64) -> " ++
    "Option<String>;",
  "#[head(\"/ping/\x7bn=7\x7d/\x7bn\x7d\")] " ++
    "async fn ping(&self, n: Option<u8>) -> Option<()>;",
  "#[options(\"/static/\x7bv=v1\x7d\")] " ++
    "async fn fixed(&self) -> Result<Option<Value>>;"]

/-- The declaration of the service. -/
def declaration : String :=
  "#[headers(Accept = \"application/json\")] pub trait Posts \x7b " ++
    " ".intercalate operations ++ " \x7d"

/-- The service. -/
def service? : Option Service := do
  let options ← Code.lex ("url = \"" ++ baseUrl ++ "\"")
  (Service.read options (← Code.lex declaration)).toOption

/-- A post. -/
def post : Schema := .record "Post" false
  [("id", none, .integer (.unsigned 64)), ("userId", none, .integer (.unsigned 64)),
    ("title", none, .text), ("body", none, .text)]

/-- The name and the password of a user. -/
def login : Schema := .record "Login" false [("username", none, .text), ("password", none, .text)]

/-- The schemas of the types that the service names; any other is a value of any kind. -/
def schema (name : String) : Schema :=
  if name == "Post" then post else if name == "Login" then login else .any

end Waybill.Posts
