import PolicyStudio.Form.Field

/-!
# Examples

The catalog holds named programs to start from.  Each of them runs with the
registry of the policy language and returns a statement.
-/

namespace PolicyStudio

/-- A named program. -/
structure Example where
  name : String
  code : String
deriving Repr, DecidableEq

/-- An example from a form. -/
def Example.ofEntries (entries : Form.Entries) : Form.Checked Example :=
  Example.mk <$> entries.required "name" (Form.Reader.textWithin 1 none)
    <*> entries.required "code" Form.Reader.text

/-- An example as it is handed on. -/
def Example.json (given : Example) : Json :=
  .object [("name", .text given.name), ("code", .text given.code)]

namespace Catalog

/-- Lines as one text. -/
def lines (content : List String) : String :=
  "\n".intercalate content

/-- Rows are read by their owner. -/
def userOwnership : Example where
  name := "User Ownership"
  code := lines
    [ "policy = (",
      "    createPolicy('user_documents')",
      "    .on('documents')",
      "    .read()",
      "    .when(column('user_id').isOwner())",
      ")",
      "",
      "return policy.toSQL()"]

/-- Rows belong to the tenant of the session. -/
def multiTenant : Example where
  name := "Multi-Tenant"
  code := lines
    [ "policy = (",
      "    createPolicy('tenant_isolation')",
      "    .on('tenant_data')",
      "    .all()",
      "    .requireAll()",
      "    .when(column('tenant_id').belongsToTenant())",
      ")",
      "",
      "return policy.toSQL()"]

/-- Owners read their projects, and members do. -/
def ownerOrMember : Example where
  name := "Owner or Member"
  code := lines
    [ "policy = (",
      "    createPolicy('project_access')",
      "    .on('projects')",
      "    .read()",
      "    .when(",
      "        column('user_id').isOwner().or_(",
      "            column('id').in_(",
      "                from_('project_members')",
      "                .select('project_id')",
      "                .where(column('user_id').eq(auth.uid()))",
      "            )",
      "        )",
      "    )",
      ")",
      "",
      "return policy.toSQL()"]

/-- Several conditions, one of which is enough. -/
def complexOr : Example where
  name := "Complex OR"
  code := lines
    [ "policy = (",
      "    createPolicy('project_access')",
      "    .on('projects')",
      "    .read()",
      "    .when(",
      "        column('is_public').isPublic()",
      "        .or_(column('user_id').isOwner())",
      "        .or_(column('organization_id').eq(session.get('app.org_id', 'uuid')))",
      "    )",
      ")",
      "",
      "return policy.toSQL()"]

/-- The statement comes with indexes on its columns. -/
def withIndexes : Example where
  name := "With Indexes"
  code := lines
    [ "policy = (",
      "    createPolicy('user_documents')",
      "    .on('documents')",
      "    .read()",
      "    .when(column('user_id').isOwner())",
      ")",
      "",
      "return policy.toSQL(includeIndexes=True)"]

/-- New rows are checked. -/
def insertValidation : Example where
  name := "INSERT Validation"
  code := lines
    [ "policy = (",
      "    createPolicy('user_documents_insert')",
      "    .on('user_documents')",
      "    .write()",
      "    .allow(column('user_id').isOwner())",
      ")",
      "",
      "return policy.toSQL()"]

/-- Changed rows are checked before and after. -/
def updateWithCheck : Example where
  name := "UPDATE with Check"
  code := lines
    [ "policy = (",
      "    createPolicy('user_documents_update')",
      "    .on('user_documents')",
      "    .update()",
      "    .allow(column('user_id').isOwner())",
      ")",
      "",
      "return policy.toSQL()"]

/-- A ready-made policy. -/
def template : Example where
  name := "Template"
  code := lines
    [ "[policy] = policies.userOwned('documents', 'SELECT')",
      "",
      "return policy.toSQL()"]

/-- Rows that may be deleted. -/
def deletePolicy : Example where
  name := "DELETE Policy"
  code := lines
    [ "policy = (",
      "    createPolicy('user_documents_delete')",
      "    .on('documents')",
      "    .delete()",
      "    .when(column('user_id').isOwner())",
      ")",
      "",
      "return policy.toSQL()"]

/-- A column matches a pattern. -/
def patternMatching : Example where
  name := "Pattern Matching"
  code := lines
    [ "policy = (",
      "    createPolicy('search_documents')",
      "    .on('documents')",
      "    .read()",
      "    .when(",
      "        column('title').ilike('%report%')",
      "        .or_(column('category').like('Finance%'))",
      "    )",
      ")",
      "",
      "return policy.toSQL()"]

/-- Columns with and without a value. -/
def nullChecks : Example where
  name := "Null Checks"
  code := lines
    [ "policy = (",
      "    createPolicy('active_documents')",
      "    .on('documents')",
      "    .read()",
      "    .when(",
      "        column('deleted_at').isNull()",
      "        .and_(column('published_at').isNotNull())",
      "    )",
      ")",
      "",
      "return policy.toSQL()"]

/-- Rows that everyone reads. -/
def publicAccessTemplate : Example where
  name := "Public Access Template"
  code := lines
    [ "policy = policies.publicAccess('documents')",
      "",
      "return policy.toSQL()"]

/-- Several commands for one role. -/
def roleBasedAccess : Example where
  name := "Role-Based Access"
  code := lines
    [ "grants = policies.roleAccess('admin_data', 'admin', ['SELECT', 'UPDATE'])",
      "",
      "return '\\n\\n'.join(p.toSQL() for p in grants)"]

/-- Conditions with names of their own. -/
def helperMethods : Example where
  name := "Helper Methods"
  code := lines
    [ "policy = (",
      "    createPolicy('document_access')",
      "    .on('documents')",
      "    .read()",
      "    .when(",
      "        column('user_id').isOwner()",
      "        .or_(column('is_public').isPublic())",
      "    )",
      ")",
      "",
      "return policy.toSQL()"]

/-- All examples, in the order in which they are offered. -/
def examples : List Example :=
  [userOwnership, multiTenant, ownerOrMember, complexOr, withIndexes, insertValidation,
    updateWithCheck, template, deletePolicy, patternMatching, nullChecks, publicAccessTemplate,
    roleBasedAccess, helperMethods]

/-- The example that a new session starts with. -/
def standard : Example := userOwnership

/-- The example with a name. -/
def find? (name : String) : Option Example :=
  examples.find? fun entry => entry.name == name

end Catalog

end PolicyStudio
