import PolicyStudio.Proofs.Policy.LastCalls
import PolicyStudio.Proofs.Sql.Paths

/-!
# Roles as single names

A role is no dotted name: a reader of the roles of a statement cuts them at the commas outside of
quotes and accepts between two commas one word, or one quoted text, for one role.  What it finds
are as many pieces as roles were granted, in their order, and each piece is for its role alone.

Roles are written like the names of tables, however, so a role with a dot in it is written as
several names with dots between them, and is read only by a reader of such names.  Nor is a role
read that is a word with a line feed behind it, which is written without quotes.
-/

namespace PolicyStudio
namespace Sql

/-! ## Single names -/

/-- A word with a line feed behind it. -/
def IsFed (part : List Char) : Prop :=
  ∃ word, isWordOf startsBare continuesBare word = true ∧ part = word ++ ['\n']

/-- Read a piece of a statement as a dotted name. -/
def readDotted (piece : List Lexeme) : Option (List (List Char)) :=
  (piece.splitOn (.bare '.')).mapM readPart

/-- What readers make of the piece that stands for a role: it is read as a single name if it has
no dot and is no word with a line feed behind it, and as a dotted name if none of its parts is. -/
structure StandsForRole (name : String) (piece : List Lexeme) : Prop where
  unmistaken : readPart piece = some name.toList ∨ readPart piece = none
  single_iff : readPart piece = some name.toList ↔ '.' ∉ name.toList ∧ ¬IsFed name.toList
  dotted_iff : readDotted piece = some (pathParts name) ↔ ∀ part ∈ pathParts name, ¬IsFed part

theorem eq_bares_of_mapM {piece : List Lexeme} {word : List Char}
    (read : piece.mapM Lexeme.bare? = some word) : piece = bares word := by
  induction piece generalizing word with
  | nil =>
    cases read
    rfl
  | cons first rest inductionHypothesis =>
    rw [List.mapM_cons] at read
    rcases Option.bind_eq_some_iff.mp read with ⟨c, bare, read⟩
    rcases Option.bind_eq_some_iff.mp read with ⟨others, behind, same⟩
    cases same
    cases first with
    | bare d =>
      cases bare
      exact congrArg (Lexeme.bare c :: ·) (inductionHypothesis behind)
    | quoted mark content => cases bare

/-- No single name has a dot outside of quotes. -/
theorem readPart_of_dot {piece : List Lexeme} (dotted : Lexeme.bare '.' ∈ piece) :
    readPart piece = none := by
  unfold readPart
  split
  · cases List.mem_singleton.mp dotted
  · cases read : piece.mapM Lexeme.bare? with
    | none => rfl
    | some word =>
      rcases List.mem_map.mp (eq_bares_of_mapM read ▸ dotted) with ⟨c, member, equal⟩
      cases equal
      refine if_neg fun named => ?_
      have continues := continuesBare_of_isWordOf (Bool.and_eq_true_iff.mp named).1 '.' member
      exact absurd continues (by decide)

namespace Identifier

variable (name : Identifier)

theorem dot_mem_lexemes (dotted : '.' ∈ name.text.toList) : Lexeme.bare '.' ∈ name.lexemes := by
  rw [lexemes]
  cases parts : pathParts name.text with
  | nil => exact absurd parts (Text.cutAt_ne_nil _ _)
  | cons first rest =>
    cases rest with
    | nil =>
      rcases Text.cutAt_eq_iff.mp parts with ⟨-, undotted, whole⟩
      rw [List.intercalate_singleton] at whole
      exact absurd (whole ▸ dotted) (undotted first List.mem_cons_self)
    | cons second rest => exact List.mem_append_right _ List.mem_cons_self

theorem lexemes_of_undotted (undotted : '.' ∉ name.text.toList) :
    name.lexemes = partLexemes name.text.toList := by
  rw [lexemes, pathParts, Text.cutAt_eq_singleton undotted]
  rfl

theorem readDotted_lexemes : readDotted name.lexemes = readPath name.render := by
  rw [readPath, name.lex_render]
  rfl

/-- A name is read as a single one, or it has a dot or a line feed behind a word. -/
theorem readPart_lexemes_cases :
    (readPart name.lexemes = some name.text.toList ∧ '.' ∉ name.text.toList ∧
      ¬IsFed name.text.toList) ∨
    (readPart name.lexemes = none ∧ ('.' ∈ name.text.toList ∨ IsFed name.text.toList)) := by
  by_cases dotted : '.' ∈ name.text.toList
  · exact .inr ⟨readPart_of_dot (name.dot_mem_lexemes dotted), .inl dotted⟩
  · rw [name.lexemes_of_undotted dotted]
    by_cases fed : IsFed name.text.toList
    · refine .inr ⟨?_, .inr fed⟩
      rcases fed with ⟨word, plain, spelled⟩
      rw [spelled]
      exact readPart_of_feed plain
    · have shows : name.text.toList ≠ [] := by
        refine name.ne_nil_of_mem_pathParts _ ?_
        rw [pathParts, Text.cutAt_eq_singleton dotted]
        exact List.mem_singleton_self _
      exact .inl ⟨readPart_partLexemes shows fun word plain spelled => fed ⟨word, plain, spelled⟩,
        dotted, fed⟩

theorem standsForRole : StandsForRole name.text name.lexemes where
  unmistaken := name.readPart_lexemes_cases.imp And.left And.left
  single_iff := by
    rcases name.readPart_lexemes_cases with ⟨read, undotted, unfed⟩ | ⟨unread, excepted⟩
    · exact iff_of_true read ⟨undotted, unfed⟩
    · rw [unread]
      exact iff_of_false nofun fun ⟨undotted, unfed⟩ => excepted.elim undotted unfed
  dotted_iff := by
    rw [name.readDotted_lexemes]
    rcases name.readPath_render_cases with ⟨read, unfed⟩ | ⟨unread, word, plain, member⟩
    · refine iff_of_true read ?_
      rintro part member ⟨word, plain, rfl⟩
      exact unfed word plain member
    · rw [unread]
      exact iff_of_false nofun fun unfed => unfed _ member ⟨word, plain, rfl⟩

end Identifier

/-! ## Pieces between commas -/

/-- The pieces between commas, without the spaces before them. -/
def piecesBetweenCommas (lexemes : List Lexeme) : List (List Lexeme) :=
  (lexemes.splitOn (.bare ',')).map fun piece => piece.dropWhile (· == .bare ' ')

theorem piecesBetweenCommas_space (lexemes : List Lexeme) :
    piecesBetweenCommas (.bare ' ' :: lexemes) = piecesBetweenCommas lexemes := by
  rw [piecesBetweenCommas, piecesBetweenCommas, List.splitOn_cons_eq_if_modifyHead,
    if_neg (by decide)]
  cases lexemes.splitOn (.bare ',') <;> rfl

theorem Identifier.dropWhile_lexemes (name : Identifier) :
    name.lexemes.dropWhile (· == .bare ' ') = name.lexemes := by
  cases spelled : name.lexemes with
  | nil => rfl
  | cons first rest =>
    have foreign : Lexeme.isOfName (.bare ' ') = false := by decide
    refine List.dropWhile_cons_of_neg fun space => ?_
    exact name.ne_of_mem_lexemes foreign first (spelled ▸ List.mem_cons_self) (eq_of_beq space)

/-- Each of the names has a piece of its own. -/
theorem piecesBetweenCommas_listLexemes {names : List Identifier} (given : names ≠ []) :
    piecesBetweenCommas (listLexemes names) = names.map Identifier.lexemes := by
  have uncut : ∀ name : Identifier, Lexeme.bare ',' ∉ name.lexemes :=
    fun name member => name.ne_of_mem_lexemes (by decide) _ member rfl
  fun_induction listLexemes names with
  | case1 => exact absurd rfl given
  | case2 name =>
    rw [piecesBetweenCommas, List.splitOn_eq_singleton (uncut name), List.map_singleton,
      name.dropWhile_lexemes, List.map_singleton]
  | case3 name rest several inductionHypothesis =>
    have others := inductionHypothesis several
    rw [← piecesBetweenCommas_space, piecesBetweenCommas] at others
    change piecesBetweenCommas (name.lexemes ++ .bare ',' :: .bare ' ' :: listLexemes rest) = _
    rw [piecesBetweenCommas, List.splitOn_append_cons_self_of_not_mem (uncut name), List.map_cons,
      others, name.dropWhile_lexemes, List.map_cons]

end Sql

namespace Policy

open Sql

/-! ## The roles of a statement -/

/-- Read the pieces for the roles of a statement, behind its name, table, kind and command. -/
def scanRoles : Scanner (List (List Lexeme)) := do
  Scanner.expect "CREATE POLICY "
  let _ ← Scanner.label
  Scanner.expect " ON "
  let _ ← Scanner.line
  Scanner.expect "\n  AS "
  let _ ← Scanner.line
  Scanner.expect "\n  FOR "
  let _ ← Scanner.line
  let roles ← Scanner.optionally "\n  TO " Scanner.line
  return roles.elim [] piecesBetweenCommas

/-- The pieces for the roles of the first statement of a text. -/
def readRoles (text : String) : Option (List (List Lexeme)) := do
  let lexemes ← lex text.toList
  let read ← scanRoles lexemes
  return read.1

namespace Definition

variable {policy : Definition} {placement : Placement} {filter check : Option (List Lexeme)}
  {n : Nat} {rest : List Lexeme}

/-- The roles are read from the lexemes of a statement. -/
theorem scanRoles_lexemes (policy : Definition) (placement : Placement)
    (given : policy.roles ≠ []) (filterClosed : ∀ lexemes ∈ filter, Sealed 0 lexemes)
    (checkClosed : ∀ lexemes ∈ check, Sealed 0 lexemes) (behind : Behind n (.bare ';' :: rest)) :
    scanRoles (policy.lexemes placement filter check (.bare ';' :: rest)) =
      some (policy.roles.map Identifier.lexemes, clauseLexemes "\n  USING " filter ++
        (clauseLexemes "\n  WITH CHECK " check ++ .bare ';' :: rest)) := by
  have filtered := behind_clauseLexemes filterClosed checkClosed behind
  have conditions := filtered.roles policy.roles
  have governing := behind_commandName placement.command conditions
  have described := behind_kindLexemes policy placement.command conditions
  have commandRead := Scanner.line_append (unbroken_commandName placement.command) conditions.ends
  have kindRead := Scanner.line_append policy.unbroken_kindName governing.ends
  have tableRead := Scanner.line_append placement.table.unbroken_lexemes described.ends
  have rolesRead := scan_rolesLine given filtered
  rw [scanRoles, lexemes, conditionLexemes, Scanner.bind_eq (Scanner.expect_append _ _),
    Scanner.bind_eq (Scanner.label_cons _ _), Scanner.bind_eq (Scanner.expect_append _ _),
    Scanner.bind_eq tableRead, kindLexemes, Scanner.bind_eq (Scanner.expect_append _ _),
    Scanner.bind_eq kindRead, Scanner.bind_eq (Scanner.expect_append _ _),
    Scanner.bind_eq commandRead, Scanner.bind_eq rolesRead, Option.elim_some,
    piecesBetweenCommas_listLexemes given]
  rfl

/-- The roles are read from every text of a policy that programs can build. -/
theorem readRoles_text (obtained : policy.Obtained) (given : policy.roles ≠ [])
    (includeIndexes : Bool) {text : String}
    (written :
      (if includeIndexes then policy.statementWithIndexes else policy.statement) = .ok text) :
    readRoles text = some (policy.roles.map Identifier.lexemes) := by
  rcases exists_lexesTo obtained includeIndexes written with
    ⟨placement, filter, check, n, rest, lexes⟩
  rw [readRoles, lexes.lexed]
  change (scanRoles _).bind _ = _
  rw [scanRoles_lexemes policy placement given lexes.filterClosed lexes.checkClosed lexes.behind]
  rfl

/-- A policy has the roles that were granted last. -/
theorem roles_of_following {earlier : Definition} {roles : List Identifier}
    {calls : List BuilderCall} (followed : earlier.following (.grant roles :: calls) = .ok policy)
    (last : ∀ call ∈ calls, call.roles? = none) : policy.roles = roles ∧ roles ≠ [] := by
  constructor
  · have others : lastSaid BuilderCall.roles? calls = none := by
      rw [lastSaid, List.filterMap_eq_nil_iff.mpr last]
      rfl
    have told := congrArg Definition.roles (eq_told_of_following followed)
    rw [told]
    change (lastSaid BuilderCall.roles? (.grant roles :: calls)).getD earlier.roles = roles
    rw [lastSaid_cons, others]
    rfl
  · rintro rfl
    rcases Outcome.bind_eq_ok.mp followed with ⟨next, impossible, -⟩
    cases impossible

end Definition

/-- The roles that a policy was granted last are cut out of its text one by one, in their order.
Each piece is read as the one name that was given for the role, except that a role with a dot in
it is written as several names with dots between them, and that no reader knows a word with a line
feed behind it. -/
theorem roles_are_read_back {names : List String} {roles : List Identifier}
    (accepted : names.mapM identifier = .ok roles) {earlier policy : Definition}
    {calls : List BuilderCall} (followed : earlier.following (.grant roles :: calls) = .ok policy)
    (last : ∀ call ∈ calls, call.roles? = none) (obtained : policy.Obtained)
    (includeIndexes : Bool) {text : String}
    (written :
      (if includeIndexes then policy.statementWithIndexes else policy.statement) = .ok text) :
    ∃ pieces, readRoles text = some pieces ∧ List.Forall₂ StandsForRole names pieces := by
  rcases Definition.roles_of_following followed last with ⟨same, given⟩
  have read := Definition.readRoles_text obtained (same ▸ given) includeIndexes written
  refine ⟨roles.map Identifier.lexemes, same ▸ read, List.forall₂_map_right_iff.mpr ?_⟩
  refine (Outcome.forall₂_of_mapM accepted).imp fun name role checked => ?_
  exact text_of_identifier checked ▸ role.standsForRole

/-! ## Two policies with roles -/

/-- A policy for reading that is granted to roles. -/
def grantedPolicy (roles : List Identifier) : Definition where
  name := ⟨"p", shows_p⟩
  table := some ⟨"t", shows_t, complete_t⟩
  command := some .select
  visible := some firstCondition
  roles := roles

/-- How it is built, behind its roles. -/
theorem grantedPolicy_followed {roles : List Identifier} (given : roles ≠ []) :
    Definition.following { name := ⟨"p", shows_p⟩ } (.grant roles ::
      [.on ⟨"t", shows_t, complete_t⟩, .governing .select, .whenVisible firstCondition]) =
        .ok (grantedPolicy roles) := by
  cases roles with
  | nil => exact absurd rfl given
  | cons first rest => rfl

theorem grantedPolicy_obtained {roles : List Identifier} (given : roles ≠ []) :
    (grantedPolicy roles).Obtained := by
  have created : Definition.create "p" = .ok { name := ⟨"p", shows_p⟩ } := rfl
  have granted : Definition.grant { name := ⟨"p", shows_p⟩ } roles =
      .ok { name := ⟨"p", shows_p⟩, roles := roles } := by
    cases roles with
    | nil => exact absurd rfl given
    | cons first rest => rfl
  exact .whenVisible (.governing (.on (.grant (.create created) granted) _) .select) (.isNull _)

theorem grantedPolicy_statement (roles : List Identifier) : (grantedPolicy roles).statement =
    .ok ((grantedPolicy roles).opening ⟨⟨"t", shows_t, complete_t⟩, .select, some firstCondition,
      none⟩ ++ clause "USING" (some "a IS NULL") ++ clause "WITH CHECK" none ++ ";") :=
  Definition.statement_of_shown rfl (renderOptional_of_rendered firstCondition_rendered) rfl

/-- Roles with a comma, with quotes, with a capital and with the name of a keyword. -/
def markedRoles : List Identifier :=
  [⟨"select", rfl, rfl⟩, ⟨"a,b", rfl, rfl⟩, ⟨"say \"hi\"", rfl, rfl⟩, ⟨"Reader", rfl, rfl⟩]

/-- How these roles are written. -/
def markedRolesText : String :=
  "CREATE POLICY \"p\" ON t\n  AS PERMISSIVE\n  FOR SELECT\n" ++
    "  TO \"select\", \"a,b\", \"say \"\"hi\"\"\", \"Reader\"\n  USING (a IS NULL);"

/-- Each of them is read back as one name. -/
theorem marked_roles_are_read_back :
    (markedRoles.map Identifier.text).mapM identifier = .ok markedRoles ∧
    (grantedPolicy markedRoles).statement = .ok markedRolesText ∧
    ∃ pieces, readRoles markedRolesText = some pieces ∧ List.Forall₂
      (fun name piece => readPart piece = some name.toList) (markedRoles.map Identifier.text)
      pieces := by
  have given : markedRoles ≠ [] := List.cons_ne_nil _ _
  have accepted : (markedRoles.map Identifier.text).mapM identifier = .ok markedRoles := rfl
  have written : (grantedPolicy markedRoles).statement = .ok markedRolesText :=
    (grantedPolicy_statement _).trans rfl
  refine ⟨accepted, written, ?_⟩
  rcases roles_are_read_back accepted (grantedPolicy_followed given) (by decide)
    (grantedPolicy_obtained given) false written with ⟨pieces, read, stands⟩
  have unexcepted : ∀ name ∈ markedRoles.map Identifier.text,
      '.' ∉ name.toList ∧ name.toList.getLast? ≠ some '\n' := by decide
  refine ⟨pieces, read, ((List.forall₂_and_left _ _).mpr ⟨unexcepted, stands⟩).imp ?_⟩
  rintro name piece ⟨⟨undotted, unended⟩, stands⟩
  refine stands.single_iff.mpr ⟨undotted, ?_⟩
  rintro ⟨word, -, spelled⟩
  exact unended (spelled ▸ List.getLast?_concat)

/-- A role with a dot in it. -/
def dottedRole : Identifier := ⟨"app.reader", rfl, rfl⟩

/-- How it is written. -/
def dottedRoleText : String :=
  "CREATE POLICY \"p\" ON t\n  AS PERMISSIVE\n  FOR SELECT\n  TO app.reader\n" ++
    "  USING (a IS NULL);"

/-- A role with a dot in it is written as two names with a dot between them, and not as one. -/
theorem dotted_role_is_no_single_name : identifier "app.reader" = .ok dottedRole ∧
    (grantedPolicy [dottedRole]).Obtained ∧
    (grantedPolicy [dottedRole]).statement = .ok dottedRoleText ∧
    ∃ piece, readRoles dottedRoleText = some [piece] ∧
      readPart piece ≠ some "app.reader".toList ∧
      readDotted piece = some ["app".toList, "reader".toList] := by
  have given : [dottedRole] ≠ [] := List.cons_ne_nil _ _
  have written : (grantedPolicy [dottedRole]).statement = .ok dottedRoleText :=
    (grantedPolicy_statement _).trans rfl
  have obtained := grantedPolicy_obtained given
  refine ⟨rfl, obtained, written, dottedRole.lexemes,
    Definition.readRoles_text obtained given false written, ?_, ?_⟩
  · rw [readPart_of_dot (dottedRole.dot_mem_lexemes (by decide))]
    exact nofun
  · decide

end Policy
end PolicyStudio
