import Bindery.Package.MethodSource
import Bindery.Package.Tree

/-!
# The root module

The root module offers a client class, which holds every version of every API on one shared session,
and a factory, which also looks up the signed-in user where an API for that exists.
-/
namespace Bindery

open Bindery.Source (Expr Imports Parameter Stmt)

/-- The API, version and method that tell who is signed in. -/
def identityApi : String := "Users"

def identityVersion : String := "v1"

def identityMethod : String := "Authenticated"

/-- Can the signed-in user be looked up? The first version with the right key decides. -/
def hasIdentityLookup (tree : ApiTree) : Bool :=
  match tree.lookup identityApi with
  | none => false
  | some api =>
    match api.generatedVersions.find? fun version => Name.versionKey version = identityVersion with
    | none => false
    | some version => (api.methods version).any (·.name = identityMethod)

/-- A callback without arguments and result, or nothing. -/
def callbackType : Expr :=
  .union (.item (.name "Callable") [.list [], .none]) .none

def clientParameters : List Parameter :=
  [{ name := "token", hint := some (.name "str") },
    { name := "on_token_expired", hint := some callbackType, default := some .none }]

def clientArguments : List Expr := [.name "token", .name "on_token_expired"]

/-- The versions of an API by their keys. -/
def versionEntries (name : String) (api : ApiNode) : List (String × Expr) :=
  api.generatedVersions.map fun version =>
    (Name.versionKey version,
      .call (.name (Name.versionClass name version)) [Source.selfAttribute "direct"] [])

def clientClass (tree : ApiTree) : Stmt :=
  .classDef "RbxApiClient" "General class for working with the Roblox API." [
    .function false "__init__" ({ name := "self" } :: clientParameters) [] .none
      ("Args:\n    token: Authorization token (.ROBLOSECURITY).\n" ++
        "    on_token_expired: Called when the token turns out to be expired.")
      ([.assign (Source.selfAttribute "direct") (.call (.name "create_client") clientArguments []),
        .assign (Source.selfAttribute "user_id") .none,
        .assign (Source.selfAttribute "user_name") .none] ++
        tree.map fun entry =>
          .assign (Source.selfAttribute entry.1) (.dict (versionEntries entry.1 entry.2)))]

/-- The look-up of the signed-in user. Only an expired session is passed over. -/
def identityLookup : Stmt :=
  .tryExcept
    [.assign (.name "user_info")
        (.await (.call
          (.attribute (.item (.attribute (.name "client") identityApi) [.text identityVersion])
            identityMethod) [] [])),
      .assign (.attribute (.name "client") "user_id") (.item (.name "user_info") [.text "id"]),
      .assign (.attribute (.name "client") "user_name") (.item (.name "user_info") [.text "name"])]
    "ApiError" "error"
    [.ifThen (.differs (.attribute (.name "error") "status_code") (.number 401)) [.reraise]]

def clientFactory (tree : ApiTree) : Stmt :=
  .function true "create_rbx_client" clientParameters [] (.name "RbxApiClient")
    ("Create an RbxApiClient and resolve the authenticated user.\n\n" ++
      "An expired token does not raise: on_token_expired has already been\n" ++
      "called by the client, and the returned instance has no user_id.")
    (.assign (.name "client") (.call (.name "RbxApiClient") clientArguments []) ::
      (if hasIdentityLookup tree then [identityLookup] else []) ++ [.return (.name "client")])

/-- The module and class names of the generated versions. -/
def versionClasses (tree : ApiTree) : List String :=
  tree.flatMap fun entry => entry.2.generatedVersions.map (Name.versionClass entry.1)

def indexImports (tree : ApiTree) : Imports :=
  let fixed := (Imports.single "collections.abc" ["Callable"]).add "rbxapi.client" ["create_client"]
  let classes := (versionClasses tree).foldl
    (fun found name => found.add (".apis." ++ name) [name]) fixed
  if hasIdentityLookup tree then classes.add "rbxapi.exceptions" ["ApiError"] else classes

def indexModule (tree : ApiTree) : List Stmt :=
  (indexImports tree).statements ++
    [Source.exports ["RbxApiClient", "create_rbx_client"], clientClass tree, clientFactory tree]

end Bindery
