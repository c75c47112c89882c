import PolicyStudio.Proofs.Policy.Placing
import PolicyStudio.Proofs.Policy.Sealing

/-!
# What a statement can be read as

The text of a policy is one statement, followed by one for each index.  Whatever was
given to the policy as a name, a role, a column or a constant, a reader sees as many
semicolons as there are statements, and the last one at the very end.  So nothing
that a caller supplies ends a clause or a statement.
-/

namespace PolicyStudio
namespace Policy

open Sql

/-! ## Clauses -/

theorem isInert_of_mem_slug {name : String} : ∀ c ∈ (slug name).toList, isInert c = true :=
  fun c member =>
    (isInert_of_continuesPlain (continuesPlain_of_continuesBare (continuesBare_of_mem_slug c member))).1

theorem seals_indexName (table column : Identifier) : Seals 0 (indexName table column) := by
  refine Seals.words (Sealed.bares fun c member => ?_)
  simp only [indexName, String.toList_append, List.mem_append] at member
  rcases member with ((member | member) | member) | member
  · exact List.all_eq_true.mp (by decide : "idx_".toList.all isInert = true) c member
  · exact isInert_of_mem_slug c member
  · exact List.all_eq_true.mp (by decide : "_".toList.all isInert = true) c member
  · exact isInert_of_mem_slug c member

/-- The clause of the roles goes behind a sealed text. -/
theorem seals_behind_roles {n : Nat} {before : String} (roles : List Identifier)
    (front : Seals n before) : Seals n (before ++ rolesClause roles) := by
  unfold rolesClause
  split_ifs
  · rwa [String.append_empty]
  · have granted := front.glued "\n  TO " (by decide)
      (Seals.joined ", " (by decide) (seals_identifiers roles))
    rwa [String.append_assoc] at granted

/-- A clause goes behind a sealed text if the text in its parentheses is sealed. -/
theorem seals_behind_clause {n : Nat} {before : String} (keyword : String)
    {condition : Option String} (words : Seals 0 keyword)
    (inner : ∀ text ∈ condition, Seals 0 text) (front : Seals n before) :
    Seals n (before ++ clause keyword condition) := by
  cases condition with
  | none =>
    rw [clause, String.append_empty]
    exact front
  | some text =>
    have opened := front.glued "\n  " (by decide) words
    have closed := opened.embraced (inner text rfl)
    simp only [String.append_assoc] at closed
    simp only [clause, String.append_assoc]
    exact closed

theorem seals_label (label : Label) : Seals 0 label.render := by
  refine ⟨[.quoted '"' label.text.toList], ?_, (Compact.quoted rfl _).closed⟩
  rw [spell_quoted, Label.render, quotedName, String.toList_ofList]

/-- The semicolon is not part of the closing parenthesis. -/
theorem indexStatement_eq (table column : Identifier) : indexStatement table column =
    "\nCREATE INDEX IF NOT EXISTS " ++ indexName table column ++ " ON " ++ table.render ++ " (" ++
      column.render ++ ")" ++ ";" :=
  have closing : ∀ text : String, text ++ ")" ++ ";" = text ++ ");" := fun _ => String.append_assoc
  (closing _).symm

/-- The statement for an index adds one semicolon, its last character. -/
theorem seals_indexStatement {n : Nat} {before : String} (table column : Identifier)
    (front : Seals n before) : Seals (n + 1) (before ++ indexStatement table column) ∧
      (before ++ indexStatement table column).toList.getLast? = some ';' := by
  have created := front.glued "\nCREATE INDEX IF NOT EXISTS " (by decide)
    (seals_indexName table column)
  have located := created.glued " ON " (by decide) (seals_identifier table)
  have listed := located.embraced (seals_identifier column)
  have ended := listed.followed (show Sealed 1 (bares ";".toList) by decide) rfl
  simp only [indexStatement_eq, ← String.append_assoc]
  refine ⟨ended, ?_⟩
  rw [String.toList_append]
  exact List.getLast?_concat

/-! ## Statements -/

theorem Command.seals_name (command : Command) : Seals 0 command.name := by
  cases command <;> exact Seals.words (by decide)

namespace Definition

/-- A condition that is placed was given to the policy. -/
theorem holds_of_placed {policy : Definition} {command : Command}
    {places : Option Condition × Option Condition} (placed : policy.placed command = .ok places)
    {condition : Condition} (put : places.1 = some condition ∨ places.2 = some condition) :
    policy.Holds condition := by
  have filtering : (policy.visible <|> policy.allowed) = some condition → policy.Holds condition := by
    intro chosen
    cases given : policy.visible with
    | none => exact Or.inr (Or.inl (by rwa [given] at chosen))
    | some _ => exact Or.inl (by rwa [given] at chosen ⊢)
  have checking : (policy.written <|> policy.allowed) = some condition → policy.Holds condition := by
    intro chosen
    cases given : policy.written with
    | none => exact Or.inr (Or.inl (by rwa [given] at chosen))
    | some _ => exact Or.inr (Or.inr (by rwa [given] at chosen ⊢))
  unfold Definition.placed at placed
  cases command with
  | select | delete =>
    dsimp only at placed
    split_ifs at placed
    cases placed
    exact put.elim filtering nofun
  | insert =>
    dsimp only at placed
    split_ifs at placed
    cases placed
    exact put.elim nofun checking
  | update | all =>
    cases placed
    exact put.elim filtering checking

theorem holds_of_resolve {policy : Definition} {placement : Placement}
    (complete : policy.resolve = .ok placement) {condition : Condition}
    (put : placement.filter = some condition ∨ placement.check = some condition) :
    policy.Holds condition :=
  holds_of_placed (placed_of_resolve complete).2 put

/-- An optional condition that programs can build is written as a sealed text. -/
theorem seals_of_renderOptional {condition : Option Condition} {text : Option String}
    (obtained : ∀ given ∈ condition, given.Obtained)
    (written : renderOptional condition = .ok text) : ∀ inner ∈ text, Seals 0 inner := by
  cases condition with
  | none =>
    rw [← Except.ok.inj written]
    nofun
  | some condition =>
    rcases exists_of_renderOptional written with ⟨inner, innerWritten, rfl⟩
    intro shown same
    rw [← Option.some.inj same]
    have rendered := Outcome.mapError_eq_ok.mp innerWritten
    exact Condition.seals_of_write (obtained condition rfl) rendered

/-- What stands in the places of a policy that programs can build is written as sealed texts. -/
theorem seals_of_places {policy : Definition} (obtained : policy.Obtained) {placement : Placement}
    (complete : policy.resolve = .ok placement) {shown : Place → Option String}
    (each : ∀ place, renderOptional (placement.at place) = .ok (shown place)) (place : Place) :
    ∀ inner ∈ shown place, Seals 0 inner := by
  refine seals_of_renderOptional (fun condition given => ?_) (each place)
  refine obtained.obtained_of_holds (holds_of_resolve complete ?_)
  cases place with
  | filter => exact Or.inl given
  | check => exact Or.inr given

/-- The statement that creates a policy holds one semicolon, its last character. -/
theorem seals_of_statement {policy : Definition} (obtained : policy.Obtained) {text : String}
    (written : policy.statement = .ok text) :
    Seals 1 text ∧ text.toList.getLast? = some ';' := by
  rcases statement_eq_ok written with ⟨placement, complete, shown, each, rfl⟩
  have seals := seals_of_places obtained complete each
  have creating : Seals 0 "CREATE POLICY" := Seals.words (by decide)
  have named := creating.glued " " (by decide) (seals_label policy.name)
  have located := named.glued " ON " (by decide) (seals_identifier placement.table)
  have kind : Seals 0 (if policy.restrictive then "RESTRICTIVE" else "PERMISSIVE") := by
    split_ifs <;> exact Seals.words (by decide)
  have declared := located.glued "\n  AS " (by decide) kind
  have governing := declared.glued "\n  FOR " (by decide) placement.command.seals_name
  have granted := seals_behind_roles policy.roles governing
  have filtered := seals_behind_clause "USING" (Seals.words (by decide)) (seals .filter) granted
  have checked := seals_behind_clause "WITH CHECK" (Seals.words (by decide)) (seals .check) filtered
  refine ⟨checked.followed (show Sealed 1 (bares ";".toList) by decide) rfl, ?_⟩
  rw [String.toList_append]
  exact List.getLast?_concat

/-- Each further statement adds one semicolon, at its end. -/
theorem seals_of_indexStatements {n : Nat} {text : String} (table : Identifier)
    (columns : List Identifier) (front : Seals n text) (ends : text.toList.getLast? = some ';') :
    Seals (n + columns.length) (text ++ String.join (columns.map (indexStatement table))) ∧
      (text ++ String.join (columns.map (indexStatement table))).toList.getLast? = some ';' := by
  induction columns generalizing n text with
  | nil =>
    rw [List.map_nil, String.join_nil, String.append_empty]
    exact ⟨front, ends⟩
  | cons column rest inductionHypothesis =>
    have one := seals_indexStatement table column front
    have all := inductionHypothesis one.1 one.2
    rw [List.map_cons, String.join_cons, ← String.append_assoc, List.length_cons, Nat.add_comm _ 1,
      ← Nat.add_assoc]
    exact all

/-- The text of a policy with its indexes holds one semicolon for each statement. -/
theorem seals_of_statementWithIndexes {policy : Definition} (obtained : policy.Obtained)
    {text : String} (written : policy.statementWithIndexes = .ok text) :
    ∃ columns, policy.indexedColumns = .ok columns ∧ Seals (1 + columns.length) text ∧
      text.toList.getLast? = some ';' := by
  rcases statementWithIndexes_eq_ok.mp written with
    ⟨placement, columns, statement, -, indexed, created, rfl⟩
  have first := seals_of_statement obtained created
  exact ⟨columns, indexed, seals_of_indexStatements placement.table columns first.1 first.2⟩

end Definition

/-! ## Reading a policy back -/

theorem getLast?_of_spell {lexemes : List Lexeme} (proper : ∀ lexeme ∈ lexemes, lexeme.isProper = true)
    (ends : (spell lexemes).getLast? = some ';') : lexemes.getLast? = some (.bare ';') := by
  rcases List.eq_nil_or_concat lexemes with equal | ⟨front, last, equal⟩
  · rw [equal] at ends
    cases ends
  · rw [List.concat_eq_append] at equal
    subst equal
    rw [spell_append, spell_cons, spell_nil, List.append_nil] at ends
    cases last with
    | bare c =>
      rw [Lexeme.spell, List.getLast?_concat] at ends
      rw [List.getLast?_concat, Option.some.inj ends]
    | quoted mark content =>
      rw [Lexeme.spell, enclosed, ← List.cons_append, ← List.append_assoc, List.getLast?_concat] at ends
      have marked := proper (.quoted mark content) (List.mem_append_right _ List.mem_cons_self)
      rw [Option.some.inj ends] at marked
      cases marked

/-- A text that is sealed and ends with a semicolon is read outside of quotes to its end. -/
theorem Seals.exists_lex {n : Nat} {text : String} (sealed : Seals n text)
    (ends : text.toList.getLast? = some ';') : ∃ lexemes, lex text.toList = some lexemes ∧
      Sealed n lexemes ∧ lexemes.getLast? = some (.bare ';') := by
  rcases sealed with ⟨lexemes, spelled, closed⟩
  rw [← spelled] at ends ⊢
  exact ⟨lexemes, lex_spell lexemes closed.proper closed.apart, closed,
    getLast?_of_spell closed.proper ends⟩

theorem opensComment_of_apart {lexemes : List Lexeme}
    (apart : lexemes.IsChain fun first second => first.merges second = false) :
    lexemes.IsChain fun first second => first.opensComment second = false :=
  apart.imp fun _ _ separate => (Bool.or_eq_false_iff.mp separate).1

/-- The text of a policy that programs can build is read to its end: it ends outside of
quotes with a semicolon, its parentheses match, it opens no comment, and it holds one
semicolon outside of quotes for each of its statements. -/
theorem text_is_read_as_its_statements {policy : Definition} (obtained : policy.Obtained)
    (includeIndexes : Bool) {text : String}
    (written : (if includeIndexes then policy.statementWithIndexes else policy.statement) = .ok text) :
    ∃ lexemes indexed, lex text.toList = some lexemes ∧ level 0 lexemes = some 0 ∧
      (lexemes.IsChain fun first second => first.opensComment second = false) ∧
      text.toList.getLast? = some ';' ∧ lexemes.getLast? = some (.bare ';') ∧
      (if includeIndexes then policy.indexedColumns else .ok []) = .ok indexed ∧
      lexemes.count (.bare ';') = 1 + indexed.length := by
  cases includeIndexes with
  | false =>
    rcases Definition.seals_of_statement obtained written with ⟨sealed, ends⟩
    rcases sealed.exists_lex ends with ⟨lexemes, read, closed, last⟩
    exact ⟨lexemes, [], read, closed.balanced, opensComment_of_apart closed.apart, ends, last, rfl,
      closed.ends_eq⟩
  | true =>
    rcases Definition.seals_of_statementWithIndexes obtained written with
      ⟨columns, indexed, sealed, ends⟩
    rcases sealed.exists_lex ends with ⟨lexemes, read, closed, last⟩
    exact ⟨lexemes, columns, read, closed.balanced, opensComment_of_apart closed.apart, ends, last,
      indexed, closed.ends_eq⟩

/-- A policy whose name is meant to end the statement, too. -/
def hostilePolicy : Definition where
  name := ⟨"p\" ON t; DROP TABLE notes; --", rfl⟩
  table := some ⟨"notes", rfl, rfl⟩
  command := some .select
  visible := some hostileCondition

private theorem hostileCondition_write :
    hostileCondition.write = .ok "\"owner\"\" = '\" = ''') OR true; --'" := by
  have shallow : hostileCondition.depth ≤ depthLimit := by
    rw [hostileCondition, Condition.depth]
    unfold Operand.depth
    decide
  rw [Condition.write, withinDepth, if_neg (Nat.not_lt.mpr shallow), hostileCondition_render]

private theorem hostilePolicy_obtained : hostilePolicy.Obtained := by
  have created : Definition.create "p\" ON t; DROP TABLE notes; --" =
      .ok { name := hostilePolicy.name } := rfl
  exact .whenVisible (.governing (.on (.create created) _) .select) hostileCondition_obtained

/-- The text of the hostile policy is one statement nevertheless. -/
theorem hostile_text_is_read_as_one_statement : ∃ text, hostilePolicy.statement = .ok text ∧
    ∃ lexemes indexed, lex text.toList = some lexemes ∧ level 0 lexemes = some 0 ∧
      (lexemes.IsChain fun first second => first.opensComment second = false) ∧
      text.toList.getLast? = some ';' ∧ lexemes.getLast? = some (.bare ';') ∧
      (if false then hostilePolicy.indexedColumns else .ok []) = .ok indexed ∧
      lexemes.count (.bare ';') = 1 + indexed.length := by
  have filter : renderOptional (some hostileCondition) =
      .ok (some "\"owner\"\" = '\" = ''') OR true; --'") :=
    Outcome.bind_eq_ok.mpr ⟨_, Outcome.mapError_eq_ok.mpr hostileCondition_write, rfl⟩
  have written : ∃ text, hostilePolicy.statement = .ok text :=
    ⟨_, Outcome.bind_eq_ok.mpr ⟨⟨_, .select, some hostileCondition, none⟩, rfl,
      Outcome.bind_eq_ok.mpr ⟨_, filter, Outcome.bind_eq_ok.mpr ⟨none, rfl, rfl⟩⟩⟩⟩
  rcases written with ⟨text, written⟩
  exact ⟨text, written, text_is_read_as_its_statements hostilePolicy_obtained false written⟩

end Policy
end PolicyStudio
