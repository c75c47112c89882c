import PolicyStudio.Editor.Declaration

/-!
# The declarations of the policy language

Six modules make up the policy language, those first that others build on.  Texts
of types in quotes name a class before it is there.
-/

namespace PolicyStudio
namespace Editor
namespace Language

/-- A method, given its parameters behind the object itself. -/
def method (name : String) (parameters : List DeclaredParameter) (result : String) :
    String × DeclaredMember :=
  (name, .method (.known (.bare "self" :: parameters) (some result)))

/-- A function. -/
def function (name : String) (parameters : List DeclaredParameter) (result : String) :
    String × DeclaredItem :=
  (name, .function (.known parameters (some result)))

/-- The method that gives the text. -/
def render : String × DeclaredMember := method "render" [] "str"

/-- The method that gives the columns. -/
def columns : String × DeclaredMember := method "columns" [] "tuple[str, ...]"

/-- Texts and names in statements. -/
def sqlModule : DeclaredModule where
  name := "rls_playground.dsl.sql"
  items :=
    [ ("PolicyDefinitionError", .class ["ValueError"] []),
      ("SqlExpression", .class [] [render]),
      ("SqlQuery", .class ["SqlExpression"] []),
      function "sql_string" [.typed "value" "Any"] "str",
      function "sql_bool" [.typed "value" "Any"] "str",
      function "render_value" [.typed "value" "Any"] "str",
      function "quote_ident" [.typed "name" "Any"] "str",
      function "quote_name" [.typed "name" "Any"] "str",
      function "check_qualified_name" [.typed "name" "Any", .typed "what" "str"] "str" ]

/-- What a statement knows of the user and the session. -/
def contextModule : DeclaredModule where
  name := "rls_playground.dsl.context"
  items :=
    [ ("ContextExpression", .class ["SqlExpression"]
        [ method "__init__" [.typed "sql" "str"] "None",
          render ]),
      ("AuthContext", .class []
        [ method "uid" [] "ContextExpression",
          method "role" [] "ContextExpression",
          method "jwt" [.standing "claim" "str | None" "None"] "ContextExpression" ]),
      ("SessionContext", .class []
        [ method "get"
            [.typed "key" "str", .standing "type" "str" "'text'"] "ContextExpression" ]),
      function "currentUser" [] "ContextExpression",
      ("auth", .instance "AuthContext"),
      ("session", .instance "SessionContext") ]

/-- Conditions and columns. -/
def expressionsModule : DeclaredModule where
  name := "rls_playground.dsl.expressions"
  items :=
    [ ("Condition", .class ["SqlExpression"]
        [ columns,
          method "and_" [.many "others" "'Condition'"] "'Condition'",
          method "or_" [.many "others" "'Condition'"] "'Condition'",
          method "not_" [] "'Condition'" ]),
      ("BoolOp", .class ["Condition"]
        [ method "__init__" [.typed "op" "str", .typed "parts" "tuple[Condition, ...]"] "None",
          render,
          columns ]),
      ("Not", .class ["Condition"]
        [ method "__init__" [.typed "inner" "Condition"] "None",
          render,
          columns ]),
      ("Comparison", .class ["Condition"]
        [ method "__init__"
            [.typed "column" "'Column'", .typed "op" "str", .typed "value" "Any"] "None",
          render,
          columns ]),
      ("NullCheck", .class ["Condition"]
        [ method "__init__"
            [.typed "column" "'Column'", .standing "negated" "bool" "False"] "None",
          render,
          columns ]),
      ("InCondition", .class ["Condition"]
        [ method "__init__" [.typed "column" "'Column'", .typed "values" "Any"] "None",
          render,
          columns ]),
      ("RawPredicate", .class ["Condition"]
        [ method "__init__" [.typed "sql" "str"] "None",
          render ]),
      ("FunctionCall", .class ["Condition"]
        [ method "__init__" [.typed "name" "str", .typed "args" "tuple[typing.Any, ...]"] "None",
          render ]),
      ("Column", .class ["SqlExpression"]
        [ method "__init__" [.typed "name" "str"] "None",
          render,
          method "eq" [.typed "value" "Any"] "Condition",
          method "neq" [.typed "value" "Any"] "Condition",
          method "gt" [.typed "value" "Any"] "Condition",
          method "gte" [.typed "value" "Any"] "Condition",
          method "lt" [.typed "value" "Any"] "Condition",
          method "lte" [.typed "value" "Any"] "Condition",
          method "like" [.typed "pattern" "str"] "Condition",
          method "ilike" [.typed "pattern" "str"] "Condition",
          method "in_" [.typed "values" "Any"] "Condition",
          method "isNull" [] "Condition",
          method "isNotNull" [] "Condition",
          method "isOwner" [] "Condition",
          method "isPublic" [] "Condition",
          method "belongsToTenant"
            [.standing "sessionKey" "str" "'app.current_tenant_id'"] "Condition",
          method "isMemberOf"
            [.typed "table" "str", .typed "key" "str",
              .standing "memberColumn" "str" "'user_id'"] "Condition" ]),
      function "column" [.typed "name" "str"] "Column",
      function "hasRole" [.typed "role" "str"] "Condition",
      function "alwaysTrue" [] "Condition",
      function "call" [.typed "name" "str", .many "args" "Any"] "Condition" ]

/-- Queries inside conditions. -/
def subqueryModule : DeclaredModule where
  name := "rls_playground.dsl.subquery"
  items :=
    [ ("Subquery", .class ["SqlQuery"]
        [ method "__init__" [.typed "table" "str"] "None",
          method "select" [.many "columns" "Any"] "'Subquery'",
          method "where" [.typed "condition" "Condition"] "'Subquery'",
          method "join"
            [.typed "table" "str", .typed "on" "Condition",
              .standing "kind" "str" "'INNER'"] "'Subquery'",
          render ]),
      function "from_" [.typed "table" "str"] "Subquery" ]

/-- Policies. -/
def policyModule : DeclaredModule where
  name := "rls_playground.dsl.policy"
  items :=
    [ ("PolicyBuilder", .class []
        [ method "__init__" [.typed "name" "str"] "None",
          method "on" [.typed "table" "str"] "'PolicyBuilder'",
          method "read" [] "'PolicyBuilder'",
          method "write" [] "'PolicyBuilder'",
          method "update" [] "'PolicyBuilder'",
          method "delete" [] "'PolicyBuilder'",
          method "all" [] "'PolicyBuilder'",
          method "to" [.many "roles" "str"] "'PolicyBuilder'",
          method "requireAll" [] "'PolicyBuilder'",
          method "permissive" [] "'PolicyBuilder'",
          method "when" [.typed "condition" "Condition"] "'PolicyBuilder'",
          method "allow" [.typed "condition" "Condition"] "'PolicyBuilder'",
          method "withCheck" [.typed "condition" "Condition"] "'PolicyBuilder'",
          method "conditions" [] "tuple[Condition, ...]",
          method "indexedColumns" [] "list[str]",
          method "toSQL" [.standing "includeIndexes" "bool" "False"] "str" ]),
      function "createPolicy" [.typed "name" "str"] "PolicyBuilder" ]

/-- Policies by template. -/
def templatesModule : DeclaredModule where
  name := "rls_playground.dsl.templates"
  items :=
    [ ("PolicyTemplates", .class []
        [ method "userOwned"
            [.typed "table" "str", .standing "operations" "Any" "'ALL'",
              .standing "ownerColumn" "str" "'user_id'"] "list[PolicyBuilder]",
          method "tenantIsolation"
            [.typed "table" "str", .standing "tenantColumn" "str" "'tenant_id'",
              .standing "sessionKey" "str" "'app.current_tenant_id'"] "list[PolicyBuilder]",
          method "publicAccess"
            [.typed "table" "str",
              .standing "visibilityColumn" "str | None" "'is_public'"] "PolicyBuilder",
          method "roleAccess"
            [.typed "table" "str", .typed "role" "str",
              .standing "operations" "Any" "'ALL'"] "list[PolicyBuilder]" ]),
      ("policies", .instance "PolicyTemplates") ]

/-- The modules of the policy language, those first that others build on. -/
def modules : List DeclaredModule :=
  [sqlModule, contextModule, expressionsModule, subqueryModule, policyModule, templatesModule]

end Language

/-- The declarations of the policy language. -/
def languageDeclarations : String := declarations Language.modules

end Editor
end PolicyStudio
