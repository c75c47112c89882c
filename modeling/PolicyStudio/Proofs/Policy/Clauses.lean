import PolicyStudio.Proofs.Policy.Statements
import PolicyStudio.Proofs.Policy.Placing
import PolicyStudio.Proofs.Sql.Scanning

/-!
# Reading the clauses of a statement

A reader who only knows the order of the clauses finds in the text of a policy what the
policy was made of: its name, table, kind, command and roles, and the texts of its
conditions.  So two policies with the same text agree in all of that, and what callers
put into names and constants never moves the border between two clauses.

The reader stops at the semicolon, so the statements for indexes may follow.
-/

namespace PolicyStudio
namespace Policy

open Sql

/-! ## The reader -/

/-- What a statement says, clause by clause. -/
structure Clauses where
  name : String
  table : String
  restrictive : Bool
  command : Command
  roles : List String
  filter : Option String
  check : Option String
deriving DecidableEq

/-- What the two kinds of policies are called. -/
def kindNames : List (String × Bool) :=
  [("PERMISSIVE", false), ("RESTRICTIVE", true)]

/-- Read the clauses of a statement, each at its beginning. -/
def scanStatement : Scanner Clauses := do
  Scanner.expect "CREATE POLICY "
  let name ← Scanner.label
  Scanner.expect " ON "
  let table ← Scanner.line
  Scanner.expect "\n  AS "
  let restrictive ← Scanner.meaning kindNames
  Scanner.expect "\n  FOR "
  let command ← Scanner.meaning (Command.inOrder.map fun command => (command.name, command))
  let roles ← Scanner.optionally "\n  TO " Scanner.line
  let filter ← Scanner.optionally "\n  USING " Scanner.inParentheses
  let check ← Scanner.optionally "\n  WITH CHECK " Scanner.inParentheses
  Scanner.expect ";"
  return ⟨name, namedBy table, restrictive, command, roles.elim [] namesBetweenCommas, filter, check⟩

/-- The clauses of the first statement of a text. -/
def readClauses (text : String) : Option Clauses := do
  let lexemes ← lex text.toList
  let read ← scanStatement lexemes
  return read.1

/-! ## What stands behind a line -/

/-- Lexemes that may follow a line of a statement. -/
structure Behind (ends : Nat) (lexemes : List Lexeme) : Prop where
  closed : Sealed ends lexemes
  ends : endsLine lexemes = true

namespace Behind

variable {n : Nat} {front rest : List Lexeme}

/-- Sealed lexemes may stand before them. -/
theorem sealed_append (behind : Behind n rest) (before : Sealed 0 front) :
    Sealed n (front ++ rest) := by
  have joined := before.append behind.closed (apart_before_break (head?_of_endsLine behind.ends).1)
  rwa [Nat.zero_add] at joined

/-- Another line goes before them. -/
theorem indented (behind : Behind n rest) {words : String} (glue : Glue (bares words.toList))
    (indents : bares "\n  ".toList <+: bares words.toList) (before : Sealed 0 front) :
    Behind n (bares words.toList ++ (front ++ rest)) where
  closed := by
    have joined := Sealed.nil.join glue (behind.sealed_append before)
    rwa [Nat.zero_add] at joined
  ends := by
    have found := List.isPrefixOf_iff_prefix.mpr (indents.trans (List.prefix_append _ (front ++ rest)))
    rw [endsLine, found, Bool.true_or]

end Behind

/-! ## The lexemes of clauses -/

/-- The clause of a condition, as it is read. -/
def clauseLexemes (words : String) : Option (List Lexeme) → List Lexeme
  | none => []
  | some inner => bares words.toList ++ .bare '(' :: (inner ++ [.bare ')'])

/-- The clause of the roles, as it is read. -/
def rolesLexemes : List Identifier → List Lexeme
  | [] => []
  | first :: rest => bares "\n  TO ".toList ++ listLexemes (first :: rest)

/-- The text of a condition. -/
def shownText (inner : Option (List Lexeme)) : Option String :=
  inner.map fun lexemes => String.ofList (spell lexemes)

theorem spell_clauseLexemes (keyword : String) (inner : Option (List Lexeme)) :
    spell (clauseLexemes ("\n  " ++ keyword ++ " ") inner) =
      (clause keyword (shownText inner)).toList := by
  cases inner with
  | none => rfl
  | some lexemes => simp [clauseLexemes, clause, shownText, Lexeme.spell]

theorem spell_listLexemes (names : List Identifier) :
    spell (listLexemes names) = (joined ", " (names.map Identifier.render)).toList := by
  fun_induction listLexemes names with
  | case1 => rfl
  | case2 name => exact name.spell_lexemes
  | case3 name rest several inductionHypothesis =>
    cases rest with
    | nil => exact absurd rfl several
    | cons next rest =>
      rw [spell_append, spell_append, inductionHypothesis, name.spell_lexemes, spell_bares]
      simp only [List.map_cons, joined, String.toList_append, List.append_assoc]

theorem spell_rolesLexemes (roles : List Identifier) :
    spell (rolesLexemes roles) = (rolesClause roles).toList := by
  cases roles with
  | nil => rfl
  | cons first rest =>
    rw [rolesLexemes, spell_append, spell_bares, spell_listLexemes, rolesClause, if_neg nofun,
      String.toList_append]

/-- A condition that is written as a sealed text is read as sealed lexemes. -/
theorem exists_shownText {text : Option String} (sealed : ∀ inner ∈ text, Seals 0 inner) :
    ∃ inner, shownText inner = text ∧ ∀ lexemes ∈ inner, Sealed 0 lexemes := by
  cases text with
  | none => exact ⟨none, rfl, nofun⟩
  | some shown =>
    rcases sealed shown rfl with ⟨lexemes, spelled, closed⟩
    refine ⟨some lexemes, ?_, fun other same => Option.some.inj same ▸ closed⟩
    rw [shownText, Option.map_some, spelled, String.ofList_toList]

namespace Behind

variable {n : Nat} {rest : List Lexeme}

theorem clause (behind : Behind n rest) {words : String} (glue : Glue (bares words.toList))
    (indents : bares "\n  ".toList <+: bares words.toList) {inner : Option (List Lexeme)}
    (closed : ∀ lexemes ∈ inner, Sealed 0 lexemes) : Behind n (clauseLexemes words inner ++ rest) := by
  cases inner with
  | none => exact behind
  | some lexemes =>
    rw [clauseLexemes, List.append_assoc]
    exact behind.indented glue indents (closed lexemes rfl).parenthesized

theorem roles (behind : Behind n rest) (roles : List Identifier) :
    Behind n (rolesLexemes roles ++ rest) := by
  cases roles with
  | nil => exact behind
  | cons first others =>
    rw [rolesLexemes, List.append_assoc]
    exact behind.indented (by decide) (by decide) (sealed_listLexemes _)

end Behind

/-! ## Reading clauses -/

theorem scan_clause {words : String} {inner : Option (List Lexeme)} {rest : List Lexeme}
    (closed : ∀ lexemes ∈ inner, Sealed 0 lexemes)
    (absent : (bares words.toList).isPrefixOf rest = false) :
    Scanner.optionally words Scanner.inParentheses (clauseLexemes words inner ++ rest) =
      some (shownText inner, rest) := by
  cases inner with
  | none => exact Scanner.optionally_of_absent absent
  | some lexemes =>
    rw [clauseLexemes, List.append_assoc]
    exact Scanner.optionally_append (Scanner.inParentheses_append (closed lexemes rfl).balanced rest)

/-- The line of the roles is read, if there are any. -/
theorem scan_rolesLine {roles : List Identifier} (given : roles ≠ []) {n : Nat} {rest : List Lexeme}
    (behind : Behind n rest) :
    Scanner.optionally "\n  TO " Scanner.line (rolesLexemes roles ++ rest) =
      some (some (listLexemes roles), rest) := by
  cases roles with
  | nil => exact absurd rfl given
  | cons first others =>
    rw [rolesLexemes, List.append_assoc]
    exact Scanner.optionally_append (Scanner.line_append (unbroken_listLexemes _) behind.ends)

theorem scan_roles (roles : List Identifier) {n : Nat} {rest : List Lexeme} (behind : Behind n rest)
    (absent : (bares "\n  TO ".toList).isPrefixOf rest = false) :
    ∃ found, Scanner.optionally "\n  TO " Scanner.line (rolesLexemes roles ++ rest) = some (found, rest) ∧
      found.elim [] namesBetweenCommas = roles.map Identifier.text := by
  cases roles with
  | nil => exact ⟨none, Scanner.optionally_of_absent absent, rfl⟩
  | cons first others =>
    have given : first :: others ≠ [] := List.cons_ne_nil _ _
    exact ⟨some (listLexemes (first :: others)), scan_rolesLine given behind,
      namesBetweenCommas_listLexemes given⟩

/-! ## Statements -/

namespace Definition

/-- The word for the kind of the policy. -/
def kindName (policy : Definition) : String :=
  if policy.restrictive then "RESTRICTIVE" else "PERMISSIVE"

/-- The lexemes of the statement behind its command, up to the semicolon. -/
def conditionLexemes (roles : List Identifier) (filter check : Option (List Lexeme))
    (ending : List Lexeme) : List Lexeme :=
  rolesLexemes roles ++ (clauseLexemes "\n  USING " filter ++
    (clauseLexemes "\n  WITH CHECK " check ++ ending))

/-- The lexemes of the statement behind its table. -/
def kindLexemes (policy : Definition) (command : Command) (rest : List Lexeme) : List Lexeme :=
  bares "\n  AS ".toList ++ (bares policy.kindName.toList ++
    (bares "\n  FOR ".toList ++ (bares command.name.toList ++ rest)))

/-- The statement as it is read, with what follows the conditions. -/
def lexemes (policy : Definition) (placement : Placement) (filter check : Option (List Lexeme))
    (ending : List Lexeme) : List Lexeme :=
  bares "CREATE POLICY ".toList ++ (.quoted '"' policy.name.text.toList ::
    (bares " ON ".toList ++ (placement.table.lexemes ++
      policy.kindLexemes placement.command (conditionLexemes policy.roles filter check ending))))

/-- What a reader finds in the statement. -/
def clauses (policy : Definition) (placement : Placement) (filter check : Option String) : Clauses where
  name := policy.name.text
  table := placement.table.text
  restrictive := policy.restrictive
  command := placement.command
  roles := policy.roles.map Identifier.text
  filter := filter
  check := check

variable {policy : Definition} {placement : Placement} {filter check : Option (List Lexeme)}
  {n : Nat} {ending rest : List Lexeme}

theorem behind_clauseLexemes (filterClosed : ∀ lexemes ∈ filter, Sealed 0 lexemes)
    (checkClosed : ∀ lexemes ∈ check, Sealed 0 lexemes) (behind : Behind n ending) :
    Behind n (clauseLexemes "\n  USING " filter ++
      (clauseLexemes "\n  WITH CHECK " check ++ ending)) := by
  have checked := behind.clause (show Glue (bares "\n  WITH CHECK ".toList) by decide) (by decide)
    checkClosed
  exact checked.clause (by decide) (by decide) filterClosed

theorem sealed_kindName (policy : Definition) : Sealed 0 (bares policy.kindName.toList) := by
  unfold kindName
  split_ifs <;> decide

theorem sealed_commandName (command : Command) : Sealed 0 (bares command.name.toList) := by
  cases command <;> decide

theorem behind_commandName (command : Command) (behind : Behind n rest) :
    Behind n (bares "\n  FOR ".toList ++ (bares command.name.toList ++ rest)) :=
  behind.indented (by decide) (by decide) (sealed_commandName command)

theorem behind_kindLexemes (policy : Definition) (command : Command) (behind : Behind n rest) :
    Behind n (policy.kindLexemes command rest) :=
  (behind_commandName command behind).indented (by decide) (by decide) policy.sealed_kindName

theorem sealed_lexemes (policy : Definition) (placement : Placement)
    (filterClosed : ∀ lexemes ∈ filter, Sealed 0 lexemes)
    (checkClosed : ∀ lexemes ∈ check, Sealed 0 lexemes) (behind : Behind n ending) :
    Sealed n (policy.lexemes placement filter check ending) := by
  have conditions := (behind_clauseLexemes filterClosed checkClosed behind).roles policy.roles
  have described := behind_kindLexemes policy placement.command conditions
  have located := described.sealed_append placement.table.compact_lexemes.closed
  have label : Sealed 0 [.quoted '"' policy.name.text.toList] := (Compact.quoted rfl _).closed
  have named := label.join (show Glue (bares " ON ".toList) by decide) located
  rw [Nat.zero_add] at named
  have created := (show Sealed 0 (bares "CREATE POLICY ".toList) by decide).append named
    (apart_behind_break rfl)
  rwa [Nat.zero_add] at created

theorem unbroken_commandName (command : Command) : Unbroken (bares command.name.toList) := by
  cases command <;> exact ⟨by decide, by decide⟩

theorem unbroken_kindName (policy : Definition) : Unbroken (bares policy.kindName.toList) := by
  unfold kindName
  split_ifs <;> exact ⟨by decide, by decide⟩

theorem lookup_kindName (policy : Definition) :
    kindNames.lookup policy.kindName = some policy.restrictive := by
  unfold kindName
  cases policy.restrictive <;> rfl

theorem lookup_commandName (command : Command) :
    (Command.inOrder.map fun command => (command.name, command)).lookup command.name =
      some command := by
  cases command <;> rfl

/-- What does not begin a clause of roles: the other clauses and the semicolon. -/
theorem not_opens_roles (filter check : Option (List Lexeme)) (rest : List Lexeme) :
    (bares "\n  TO ".toList).isPrefixOf (clauseLexemes "\n  USING " filter ++
      (clauseLexemes "\n  WITH CHECK " check ++ .bare ';' :: rest)) = false := by
  cases filter with
  | some _ => rfl
  | none =>
    cases check with
    | some _ => rfl
    | none => rfl

theorem not_opens_filter (check : Option (List Lexeme)) (rest : List Lexeme) :
    (bares "\n  USING ".toList).isPrefixOf
      (clauseLexemes "\n  WITH CHECK " check ++ .bare ';' :: rest) = false := by
  cases check with
  | some _ => rfl
  | none => rfl

/-- The clauses of a statement are read from its lexemes. -/
theorem scan_lexemes (policy : Definition) (placement : Placement)
    (filterClosed : ∀ lexemes ∈ filter, Sealed 0 lexemes)
    (checkClosed : ∀ lexemes ∈ check, Sealed 0 lexemes) (behind : Behind n (.bare ';' :: rest)) :
    scanStatement (policy.lexemes placement filter check (.bare ';' :: rest)) =
      some (policy.clauses placement (shownText filter) (shownText check), rest) := by
  have filtered := behind_clauseLexemes filterClosed checkClosed behind
  have conditions := filtered.roles policy.roles
  have governing := behind_commandName placement.command conditions
  have described := behind_kindLexemes policy placement.command conditions
  rcases scan_roles policy.roles filtered (not_opens_roles filter check rest) with
    ⟨found, rolesRead, named⟩
  have commandRead := Scanner.meaning_append (lookup_commandName placement.command)
    (unbroken_commandName placement.command) conditions.ends
  have kindRead := Scanner.meaning_append policy.lookup_kindName policy.unbroken_kindName
    governing.ends
  have tableRead := Scanner.line_append placement.table.unbroken_lexemes described.ends
  have ended : Scanner.expect ";" (.bare ';' :: rest) = some ((), rest) :=
    Scanner.expect_append ";" rest
  rw [scanStatement, lexemes, conditionLexemes, Scanner.bind_eq (Scanner.expect_append _ _),
    Scanner.bind_eq (Scanner.label_cons _ _), Scanner.bind_eq (Scanner.expect_append _ _),
    Scanner.bind_eq tableRead, kindLexemes, Scanner.bind_eq (Scanner.expect_append _ _),
    Scanner.bind_eq kindRead, Scanner.bind_eq (Scanner.expect_append _ _),
    Scanner.bind_eq commandRead, Scanner.bind_eq rolesRead,
    Scanner.bind_eq (scan_clause filterClosed (not_opens_filter check rest)),
    Scanner.bind_eq (scan_clause checkClosed rfl),
    Scanner.bind_eq ended, placement.table.namedBy_lexemes, named]
  rfl

/-- A statement is spelled by its lexemes. -/
theorem spell_lexemes (policy : Definition) (placement : Placement)
    (filter check : Option (List Lexeme)) (ending : List Lexeme) :
    spell (policy.lexemes placement filter check ending) = (policy.opening placement ++
      clause "USING" (shownText filter) ++ clause "WITH CHECK" (shownText check)).toList ++
        spell ending := by
  have label : spell [.quoted '"' policy.name.text.toList] = policy.name.render.toList := by
    rw [spell_quoted, Label.render, quotedName, String.toList_ofList]
  have filtered : spell (clauseLexemes "\n  USING " filter) =
      (clause "USING" (shownText filter)).toList := spell_clauseLexemes "USING" filter
  have checked : spell (clauseLexemes "\n  WITH CHECK " check) =
      (clause "WITH CHECK" (shownText check)).toList := spell_clauseLexemes "WITH CHECK" check
  rw [lexemes, kindLexemes, conditionLexemes, ← List.singleton_append]
  simp only [spell_append, spell_bares, label, filtered, checked, Identifier.spell_lexemes,
    spell_rolesLexemes]
  unfold opening kindName
  repeat rw [String.toList_append]
  simp only [List.append_assoc]

/-- The table of a complete policy is the one it was put on. -/
theorem table_of_resolve (complete : policy.resolve = .ok placement) :
    policy.table = some placement.table :=
  (resolve_eq_ok.mp complete).1

/-- The statements for indexes go behind the one that creates the policy. -/
theorem exists_further {includeIndexes : Bool} {text : String}
    (written : (if includeIndexes then policy.statementWithIndexes else policy.statement) = .ok text) :
    ∃ statement further n, policy.statement = .ok statement ∧ text = statement ++ further ∧
      Seals n (";" ++ further) := by
  have semicolon : Seals 1 ";" := Seals.words (by decide)
  cases includeIndexes with
  | false => exact ⟨text, "", 1, written, String.append_empty.symm, semicolon⟩
  | true =>
    rcases statementWithIndexes_eq_ok.mp written with
      ⟨placement, columns, statement, -, -, created, equal⟩
    exact ⟨statement, _, _, created, equal,
      (seals_of_indexStatements placement.table columns semicolon (by decide)).1⟩

/-- A sealed text that begins with a semicolon may follow the conditions. -/
theorem exists_ending {further : String} (sealed : Seals n (";" ++ further)) :
    ∃ rest, spell (.bare ';' :: rest) = (";" ++ further).toList ∧ Behind n (.bare ';' :: rest) := by
  rcases sealed with ⟨lexemes, spelled, closed⟩
  have begins : (spell lexemes).head? = some ';' := by
    rw [spelled, String.toList_append]
    rfl
  cases lexemes with
  | nil => cases begins
  | cons first rest =>
    cases first with
    | bare c =>
      cases begins
      exact ⟨rest, spelled, closed, rfl⟩
    | quoted mark content =>
      cases begins
      cases closed.proper _ List.mem_cons_self

/-- The text is read as the lexemes of the statement, and those of the conditions are sealed. -/
structure LexesTo (policy : Definition) (text : String) (placement : Placement)
    (filter check : Option (List Lexeme)) (n : Nat) (rest : List Lexeme) : Prop where
  complete : policy.resolve = .ok placement
  filterShown : renderOptional placement.filter = .ok (shownText filter)
  checkShown : renderOptional placement.check = .ok (shownText check)
  filterClosed : ∀ lexemes ∈ filter, Sealed 0 lexemes
  checkClosed : ∀ lexemes ∈ check, Sealed 0 lexemes
  behind : Behind n (.bare ';' :: rest)
  lexed : lex text.toList = some (policy.lexemes placement filter check (.bare ';' :: rest))

/-- Every text of a policy that programs can build is read as the lexemes of a statement. -/
theorem exists_lexesTo (obtained : policy.Obtained) (includeIndexes : Bool) {text : String}
    (written : (if includeIndexes then policy.statementWithIndexes else policy.statement) = .ok text) :
    ∃ placement filter check n rest, policy.LexesTo text placement filter check n rest := by
  rcases exists_further written with ⟨statement, further, n, created, followed, sealed⟩
  rcases exists_ending sealed with ⟨rest, ending, behind⟩
  rcases statement_eq_ok created with ⟨placement, complete, shown, each, spelled⟩
  have seals := seals_of_places obtained complete each
  rcases exists_shownText (seals .filter) with ⟨filter, filterShown, filterClosed⟩
  rcases exists_shownText (seals .check) with ⟨check, checkShown, checkClosed⟩
  have closed := policy.sealed_lexemes placement filterClosed checkClosed behind
  have whole : text.toList = spell (policy.lexemes placement filter check (.bare ';' :: rest)) := by
    rw [spell_lexemes, ending, ← String.toList_append, followed, spelled, filterShown, checkShown,
      String.append_assoc]
  refine ⟨placement, filter, check, n, rest, complete, ?_, ?_, filterClosed, checkClosed, behind, ?_⟩
  · exact filterShown ▸ each .filter
  · exact checkShown ▸ each .check
  · rw [whole, lex_spell _ closed.proper closed.apart]

/-- A reader finds in the text of a policy all that the policy was made of. -/
theorem readClauses_text (obtained : policy.Obtained) (includeIndexes : Bool) {text : String}
    (written : (if includeIndexes then policy.statementWithIndexes else policy.statement) = .ok text) :
    ∃ placement filter check, policy.resolve = .ok placement ∧
      renderOptional placement.filter = .ok filter ∧ renderOptional placement.check = .ok check ∧
      readClauses text = some (policy.clauses placement filter check) := by
  rcases exists_lexesTo obtained includeIndexes written with
    ⟨placement, filter, check, n, rest, lexes⟩
  refine ⟨placement, _, _, lexes.complete, lexes.filterShown, lexes.checkShown, ?_⟩
  rw [readClauses, lexes.lexed]
  change (scanStatement _).bind _ = _
  rw [scan_lexemes policy placement lexes.filterClosed lexes.checkClosed lexes.behind]
  rfl

end Definition

/-! ## Equal texts -/

/-- Two policies with the same text, with or without the statements for indexes, have the
same name, table, kind, command and roles, and the same texts of conditions in the same
places. -/
theorem equal_texts_have_equal_clauses {first second : Definition} (firstObtained : first.Obtained)
    (secondObtained : second.Obtained) (firstIndexes secondIndexes : Bool) {text : String}
    (firstWritten :
      (if firstIndexes then first.statementWithIndexes else first.statement) = .ok text)
    (secondWritten :
      (if secondIndexes then second.statementWithIndexes else second.statement) = .ok text) :
    first.name = second.name ∧ first.table = second.table ∧
      first.restrictive = second.restrictive ∧ first.command = second.command ∧
      first.roles = second.roles ∧
      ∃ firstPlacement secondPlacement filter check,
        first.resolve = .ok firstPlacement ∧ second.resolve = .ok secondPlacement ∧
        renderOptional firstPlacement.filter = .ok filter ∧
        renderOptional secondPlacement.filter = .ok filter ∧
        renderOptional firstPlacement.check = .ok check ∧
        renderOptional secondPlacement.check = .ok check := by
  rcases Definition.readClauses_text firstObtained firstIndexes firstWritten with
    ⟨firstPlacement, firstFilter, firstCheck, firstComplete, firstFiltered, firstChecked, firstRead⟩
  rcases Definition.readClauses_text secondObtained secondIndexes secondWritten with
    ⟨secondPlacement, secondFilter, secondCheck, secondComplete, secondFiltered, secondChecked,
      secondRead⟩
  have same := Option.some.inj (firstRead.symm.trans secondRead)
  simp only [Definition.clauses, Clauses.mk.injEq] at same
  rcases same with ⟨name, table, kind, command, roles, rfl, rfl⟩
  refine ⟨Label.text_injective name, ?_, kind, ?_,
    List.map_injective_iff.mpr Identifier.text_injective roles, firstPlacement, secondPlacement,
    firstFilter, firstCheck, firstComplete, secondComplete, firstFiltered, secondFiltered,
    firstChecked, secondChecked⟩
  · rw [Definition.table_of_resolve firstComplete, Definition.table_of_resolve secondComplete,
      Identifier.text_injective table]
  · rw [(Definition.placed_of_resolve firstComplete).1, (Definition.placed_of_resolve secondComplete).1,
      command]

/-! The name and the table of the policies below. -/

theorem shows_p : Text.blank "p" = false := rfl

theorem shows_t : Text.blank "t" = false := rfl

theorem complete_t : hasAllParts "t" = true := rfl

/-- A policy for updates with one condition for both places. -/
def sharedPolicy : Definition where
  name := ⟨"p", shows_p⟩
  table := some ⟨"t", shows_t, complete_t⟩
  command := some .update
  allowed := some firstCondition

/-- A policy for updates that is given the same condition for each place of its own. -/
def pairedPolicy : Definition where
  name := ⟨"p", shows_p⟩
  table := some ⟨"t", shows_t, complete_t⟩
  command := some .update
  visible := some firstCondition
  written := some firstCondition

private theorem obtained_of_command (command : Command) : Definition.Obtained
    { name := ⟨"p", rfl⟩, table := some ⟨"t", rfl, rfl⟩, command := some command } := by
  have created : Definition.create "p" = .ok { name := ⟨"p", rfl⟩ } := rfl
  exact .governing (.on (.create created) _) command

theorem sharedPolicy_obtained : sharedPolicy.Obtained :=
  .allow (obtained_of_command .update) (.isNull _)

theorem pairedPolicy_obtained : pairedPolicy.Obtained :=
  .checkWritten (.whenVisible (obtained_of_command .update) (.isNull _)) (.isNull _)

/-- What both are written as. -/
def sharedText : String :=
  "CREATE POLICY \"p\" ON t\n  AS PERMISSIVE\n  FOR UPDATE\n  USING (a IS NULL)\n" ++
    "  WITH CHECK (a IS NULL);"

theorem sharedPolicy_statement : sharedPolicy.statement = .ok sharedText := by
  have shown := renderOptional_of_rendered firstCondition_rendered
  exact Outcome.bind_eq_ok.mpr ⟨⟨_, .update, some firstCondition, some firstCondition⟩, rfl,
    Outcome.bind_eq_ok.mpr ⟨_, shown, Outcome.bind_eq_ok.mpr ⟨_, shown, rfl⟩⟩⟩

theorem pairedPolicy_statement : pairedPolicy.statement = .ok sharedText := by
  have shown := renderOptional_of_rendered firstCondition_rendered
  exact Outcome.bind_eq_ok.mpr ⟨⟨_, .update, some firstCondition, some firstCondition⟩, rfl,
    Outcome.bind_eq_ok.mpr ⟨_, shown, Outcome.bind_eq_ok.mpr ⟨_, shown, rfl⟩⟩⟩

/-- The two policies are different, and their texts are the same. -/
theorem shared_and_paired_have_equal_clauses :
    sharedPolicy.statement = .ok sharedText ∧ pairedPolicy.statement = .ok sharedText ∧
      sharedPolicy ≠ pairedPolicy ∧ sharedPolicy.name = pairedPolicy.name ∧
      sharedPolicy.table = pairedPolicy.table ∧
      sharedPolicy.restrictive = pairedPolicy.restrictive ∧
      sharedPolicy.command = pairedPolicy.command ∧ sharedPolicy.roles = pairedPolicy.roles ∧
      ∃ firstPlacement secondPlacement filter check,
        sharedPolicy.resolve = .ok firstPlacement ∧ pairedPolicy.resolve = .ok secondPlacement ∧
        renderOptional firstPlacement.filter = .ok filter ∧
        renderOptional secondPlacement.filter = .ok filter ∧
        renderOptional firstPlacement.check = .ok check ∧
        renderOptional secondPlacement.check = .ok check := by
  have different : sharedPolicy ≠ pairedPolicy :=
    fun same => nomatch congrArg Definition.visible same
  have equal := equal_texts_have_equal_clauses sharedPolicy_obtained pairedPolicy_obtained
    false false sharedPolicy_statement pairedPolicy_statement
  exact ⟨sharedPolicy_statement, pairedPolicy_statement, different, equal⟩

end Policy
end PolicyStudio
