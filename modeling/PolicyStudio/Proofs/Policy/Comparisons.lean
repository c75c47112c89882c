import PolicyStudio.Proofs.Policy.Operands
import PolicyStudio.Proofs.Sql.Scanning

/-!
# Comparisons read back

A reader of a comparison expects a column, a sign and an operand with spaces between them,
and takes each of them for a word: it ends at a space, a comma or a closing parenthesis, but
not within parentheses.  If the operand is one word from outside, the comparison is read back
wherever it stands.  If it is several words, only the first of them is taken for the operand,
and what follows regroups the condition.
-/

namespace PolicyStudio

namespace Sql

/-! ## The reader -/

/-- The lexeme ends a word, where it stands outside of parentheses. -/
def Lexeme.endsWord : Lexeme → Bool
  | .bare c => [' ', ',', ')'].contains c
  | .quoted .. => false

/-- The lexemes up to the end of the word, and the others. -/
def toWordEnd (depth : Nat) : List Lexeme → List Lexeme × List Lexeme
  | [] => ([], [])
  | first :: rest =>
    if depth = 0 ∧ first.endsWord = true then ([], first :: rest)
    else
      let behind := toWordEnd ((first.level? depth).getD 0) rest
      (first :: behind.1, behind.2)

namespace Scanner

/-- A word with what is in parentheses in it. -/
def word : Scanner String := fun lexemes =>
  some (String.ofList (spell (toWordEnd 0 lexemes).1), (toWordEnd 0 lexemes).2)

/-- A comparison: a column, a sign and an operand with spaces between them. -/
def comparison : Scanner (String × String × String) := do
  let column ← word
  expect " "
  let sign ← word
  expect " "
  let operand ← word
  return (column, sign, operand)

end Scanner

/-- A word that is whole from outside is read as a whole where a word may end behind it. -/
theorem toWordEnd_append {depth : Nat} {front rest : List Lexeme} (matched : level depth front = some 0)
    (whole : isWhole (outline depth front) = true) (ends : rest.head?.all Lexeme.endsWord = true) :
    toWordEnd depth (front ++ rest) = (front, rest) := by
  induction front generalizing depth with
  | nil =>
    cases matched
    cases rest with
    | nil => rfl
    | cons first rest =>
      have ended : first.endsWord = true := ends
      rw [List.nil_append, toWordEnd, if_pos ⟨rfl, ended⟩]
  | cons first front inductionHypothesis =>
    rw [level_cons] at matched
    rcases Option.bind_eq_some_iff.mp matched with ⟨next, stepped, frontMatched⟩
    rw [outline, stepped, Option.getD_some] at whole
    have behind : isWhole (outline next front) = true := by
      split_ifs at whole
      · exact (Bool.and_eq_true_iff.mp whole).2
      · exact whole
    -- Two of the three ends are excluded by the outline, and the closing parenthesis by the depth.
    have goesOn : ¬(depth = 0 ∧ first.endsWord = true) := by
      rintro ⟨rfl, ended⟩
      rw [if_pos rfl] at whole
      have plain := (Bool.and_eq_true_iff.mp whole).1
      cases first with
      | quoted mark content => cases ended
      | bare c =>
        simp only [Lexeme.endsWord, List.contains_eq_mem, decide_eq_true_eq, List.mem_cons,
          List.not_mem_nil, or_false] at ended
        rcases ended with rfl | rfl | rfl
        · cases plain
        · cases plain
        · cases stepped
    rw [List.cons_append, toWordEnd, if_neg goesOn, stepped, Option.getD_some,
      inductionHypothesis frontMatched behind]

/-- What is read up to the end is whole from outside. -/
theorem isWhole_of_toWordEnd {depth : Nat} {lexemes : List Lexeme}
    (all : (toWordEnd depth lexemes).2 = []) : isWhole (outline depth lexemes) = true := by
  induction lexemes generalizing depth with
  | nil => rfl
  | cons first rest inductionHypothesis =>
    rw [toWordEnd] at all
    split_ifs at all with ends
    have behind := inductionHypothesis all
    rw [outline]
    split_ifs with outside
    · have plain : (first.seen != ' ' && first.seen != ',') = true := by
        have goesOn : first.endsWord ≠ true := fun ended => ends ⟨outside, ended⟩
        cases first with
        | quoted mark content => rfl
        | bare c =>
          simp only [Lexeme.endsWord, List.contains_eq_mem, ne_eq, decide_eq_true_eq, List.mem_cons,
            List.not_mem_nil, or_false, not_or] at goesOn
          simp only [Lexeme.seen, Bool.and_eq_true, bne_iff_ne]
          exact ⟨goesOn.1, goesOn.2.1⟩
      exact Bool.and_eq_true_iff.mpr ⟨plain, behind⟩
    · exact behind

theorem Scanner.word_append {front : List Lexeme} {text : String} (rest : List Lexeme)
    (spelled : spell front = text.toList) (closed : Sealed 0 front)
    (whole : isWhole (outline 0 front) = true) :
    Scanner.word (front ++ .bare ' ' :: rest) = some (text, .bare ' ' :: rest) := by
  rw [word, toWordEnd_append closed.balanced whole rfl, spelled, String.ofList_toList]

end Sql

namespace Policy

open Sql

/-! ## Comparisons -/

/-- A column is compared with an operand, other than for a pattern.  Equality with nothing is
not compared but tested. -/
def Column.Compares (column : Column) (comparator : Comparator) (operand : Operand)
    (result : Condition) : Prop :=
  match comparator with
  | .equal => operand ≠ .null ∧ column.equals operand = .ok result
  | .different => operand ≠ .null ∧ column.differs operand = .ok result
  | .like | .likeAnyCase => False
  | order => column.compare order operand = .ok result

theorem Column.Compares.compare {column : Column} {comparator : Comparator} {operand : Operand}
    {result : Condition} (compared : column.Compares comparator operand result) :
    column.compare comparator operand = .ok result := by
  cases comparator with
  | equal =>
    rcases equals_cases compared.2 with ⟨nothing, -⟩ | accepted
    · exact absurd nothing compared.1
    · exact accepted
  | different =>
    rcases differs_cases compared.2 with ⟨nothing, -⟩ | accepted
    · exact absurd nothing compared.1
    · exact accepted
  | like | likeAnyCase => exact compared.elim
  | greater | atLeast | less | atMost => exact compared

theorem Comparator.sealed_sign (comparator : Comparator) : Sealed 0 (bares comparator.sign.toList) := by
  cases comparator <;> decide

theorem Comparator.isWhole_sign (comparator : Comparator) :
    isWhole (outline 0 (bares comparator.sign.toList)) = true := by
  cases comparator <;> decide

/-- A comparison as it is read, with the lexemes of its operand. -/
def comparisonLexemes (column : Column) (comparator : Comparator) (operand : List Lexeme) :
    List Lexeme :=
  column.name.lexemes ++ .bare ' ' :: (bares comparator.sign.toList ++ .bare ' ' :: operand)

theorem comparisonLexemes_append (column : Column) (comparator : Comparator)
    (operand rest : List Lexeme) : comparisonLexemes column comparator operand ++ rest =
      comparisonLexemes column comparator (operand ++ rest) := by
  simp only [comparisonLexemes, List.append_assoc, List.cons_append]

theorem lex_comparison (column : Column) (comparator : Comparator) {operand : List Lexeme}
    {text : String} (spelled : spell operand = text.toList) (closed : Sealed 0 operand) :
    lex (column.render ++ " " ++ comparator.sign ++ " " ++ text).toList =
      some (comparisonLexemes column comparator operand) := by
  have glue : Glue [.bare ' '] := by decide
  have all : Sealed 0 (comparisonLexemes column comparator operand) :=
    column.name.compact_lexemes.closed.join glue (comparator.sealed_sign.join glue closed)
  have same : spell (comparisonLexemes column comparator operand) =
      (column.render ++ " " ++ comparator.sign ++ " " ++ text).toList := by
    simp [comparisonLexemes, Column.render, column.name.spell_lexemes, spelled, Lexeme.spell]
  rw [← same]
  exact lex_spell _ all.proper all.apart

/-- The column and the sign are read as they are, and the operand up to the end of a word. -/
theorem scan_comparison (column : Column) (comparator : Comparator) (operand : List Lexeme) :
    Scanner.comparison (comparisonLexemes column comparator operand) =
      some ((column.render, comparator.sign, String.ofList (spell (toWordEnd 0 operand).1)),
        (toWordEnd 0 operand).2) := by
  have first := Scanner.word_append (bares comparator.sign.toList ++ .bare ' ' :: operand)
    column.name.spell_lexemes column.name.compact_lexemes.closed column.name.isWhole_outline
  have second := Scanner.word_append operand (spell_bares comparator.sign.toList)
    comparator.sealed_sign comparator.isWhole_sign
  refine (Scanner.bind_eq first).trans ?_
  refine (Scanner.bind_eq (Scanner.expect_append " " _)).trans ?_
  refine (Scanner.bind_eq second).trans ?_
  exact Scanner.bind_eq (Scanner.expect_append " " operand)

/-- A comparison is read back wherever it stands exactly if its operand is whole from outside. -/
theorem scan_comparison_iff (column : Column) (comparator : Comparator) {operand : List Lexeme}
    {text : String} (spelled : spell operand = text.toList) (closed : Sealed 0 operand) :
    (∀ rest : List Lexeme, rest.head?.all Lexeme.endsWord = true →
      Scanner.comparison (comparisonLexemes column comparator operand ++ rest) =
        some ((column.render, comparator.sign, text), rest)) ↔ isWhole (outline 0 operand) = true := by
  constructor
  · intro readBack
    -- At the end of a text nothing is left over, so the operand itself is read to its end.
    have alone := readBack [] rfl
    rw [List.append_nil, scan_comparison] at alone
    exact isWhole_of_toWordEnd (Prod.ext_iff.mp (Option.some.inj alone)).2
  · intro whole rest ends
    rw [comparisonLexemes_append, scan_comparison, toWordEnd_append closed.balanced whole ends, spelled,
      String.ofList_toList]

/-- The text of an operand holds no keyword and no sign outside of quotes and parentheses
exactly if the operand is a single word and not the name of a keyword.  A comparison is read
back as column, sign and operand wherever it stands exactly if the operand is a single word. -/
theorem comparisons_are_read_back_iff {column : Column} {comparator : Comparator} {operand : Operand}
    {result : Condition} (obtained : operand.Obtained)
    (compared : column.Compares comparator operand result) :
    ∃ text lexemes, operand.write = .ok text ∧
      result.render = .ok (column.render ++ " " ++ comparator.sign ++ " " ++ text) ∧
      lex (column.render ++ " " ++ comparator.sign ++ " " ++ text).toList = some lexemes ∧
      isClosed text = (operand.isSingle && !operand.namesKeyword) ∧
      ((∀ rest : List Lexeme, rest.head?.all Lexeme.endsWord = true →
          Scanner.comparison (lexemes ++ rest) = some ((column.render, comparator.sign, text), rest)) ↔
        operand.isSingle = true) := by
  have accepted := compared.compare
  rcases Outcome.bind_eq_ok.mp accepted with ⟨checked, passed, -⟩
  rcases Outcome.bind_eq_ok.mp passed with ⟨text, shown, -⟩
  have written := Outcome.mapError_eq_ok.mp shown
  have renders := eq_of_withinDepth written
  rcases Operand.exists_outlined obtained.genuine renders with ⟨cs, outlined, whole, closed⟩
  have isClosed := outlined.isClosed_eq.trans closed
  rcases outlined with ⟨word, spelled, wordSealed, rfl⟩
  refine ⟨text, comparisonLexemes column comparator word, written, ?_, ?_, isClosed, ?_⟩
  · rw [Column.eq_of_compare accepted, Condition.render, renders]
    rfl
  · exact lex_comparison column comparator spelled wordSealed
  · rw [← whole]
    exact scan_comparison_iff column comparator spelled wordSealed

/-- A literal in which a connective stands. -/
def divided : Operand :=
  .text "mine OR yours"

theorem divided_write : divided.write = .ok "'mine OR yours'" := by
  unfold divided Operand.write Operand.render Operand.depth
  rfl

/-- In a literal a connective does not matter, wherever the comparison stands. -/
theorem divided_is_read_back :
    ∃ result lexemes, Column.Compares ⟨⟨"owner", rfl, rfl⟩⟩ .equal divided result ∧
      divided.Obtained ∧ isClosed "'mine OR yours'" = true ∧
      lex "owner = 'mine OR yours'".toList = some lexemes ∧
      ∀ rest : List Lexeme, rest.head?.all Lexeme.endsWord = true →
        Scanner.comparison (lexemes ++ rest) = some (("owner", "=", "'mine OR yours'"), rest) := by
  have checked : divided.checked = .ok divided :=
    Outcome.bind_eq_ok.mpr ⟨_, Outcome.mapError_eq_ok.mpr divided_write, rfl⟩
  have compared : Column.Compares ⟨⟨"owner", rfl, rfl⟩⟩ .equal divided
      (.comparison ⟨⟨"owner", rfl, rfl⟩⟩ .equal divided) :=
    ⟨nofun, Outcome.bind_eq_ok.mpr ⟨_, checked, rfl⟩⟩
  have obtained : divided.Obtained := .text _
  rcases comparisons_are_read_back_iff obtained compared with
    ⟨text, lexemes, written, -, read, closed, reads⟩
  rw [divided_write] at written
  cases written
  exact ⟨_, lexemes, compared, obtained, closed, read, reads.mpr rfl⟩

/-- Nobody wrote it, or nobody edits it. -/
def eitherMissing : Condition :=
  .junction .any [.nullTest ⟨⟨"author", rfl, rfl⟩⟩ false, .nullTest ⟨⟨"editor", rfl, rfl⟩⟩ false]

theorem eitherMissing_obtained : Operand.Obtained (.condition eitherMissing) := by
  have first : Operand.Obtained (.condition (Column.isNull ⟨⟨"author", rfl, rfl⟩⟩)) := .isNull _
  have second : Operand.Obtained (.condition (Column.isNull ⟨⟨"editor", rfl, rfl⟩⟩)) := .isNull _
  exact .or (List.cons_ne_nil _ []) first (List.forall_mem_singleton.mpr second)

theorem eitherMissing_render : eitherMissing.render = .ok "author IS NULL OR editor IS NULL" := by
  rw [eitherMissing, Condition.render, renderParts, renderParts, renderParts, Condition.render,
    Condition.render]
  rfl

theorem eitherMissing_checked :
    (Operand.condition eitherMissing).checked = .ok (.condition eitherMissing) := by
  have shallow : (Operand.condition eitherMissing).depth ≤ depthLimit := by decide
  have written : (Operand.condition eitherMissing).write = .ok "author IS NULL OR editor IS NULL" := by
    rw [Operand.write, withinDepth_of_le shallow]
    unfold Operand.render
    exact eitherMissing_render
  exact Outcome.bind_eq_ok.mpr ⟨_, Outcome.mapError_eq_ok.mpr written, rfl⟩

/-- A comparison with a junction is read as a comparison with the first word of the junction. -/
theorem comparison_with_junction_is_divided :
    ∃ result, Column.Compares ⟨⟨"draft", rfl, rfl⟩⟩ .equal (.condition eitherMissing) result ∧
      Operand.Obtained (.condition eitherMissing) ∧
      result.render = .ok "draft = author IS NULL OR editor IS NULL" ∧
      isClosed "author IS NULL OR editor IS NULL" = false ∧
      ∃ lexemes, lex "draft = author IS NULL OR editor IS NULL".toList = some lexemes ∧
        Scanner.comparison lexemes = 
          some (("draft", "=", "author"), bares " IS NULL OR editor IS NULL".toList) := by
  have compared : Column.Compares ⟨⟨"draft", rfl, rfl⟩⟩ .equal (.condition eitherMissing)
      (.comparison ⟨⟨"draft", rfl, rfl⟩⟩ .equal (.condition eitherMissing)) :=
    ⟨nofun, Outcome.bind_eq_ok.mpr ⟨_, eitherMissing_checked, rfl⟩⟩
  have rendered : (Operand.condition eitherMissing).render = .ok "author IS NULL OR editor IS NULL" := by
    unfold Operand.render
    exact eitherMissing_render
  have all : Sealed 0 (bares "draft = author IS NULL OR editor IS NULL".toList) := by decide
  have read := lex_spell _ all.proper all.apart
  rw [spell_bares] at read
  refine ⟨_, compared, eitherMissing_obtained, ?_, ?_, _, read, ?_⟩
  · rw [Condition.render, rendered]
    rfl
  · rcases Operand.severalWords_of_render eitherMissing_obtained.genuine rfl rendered with
      ⟨cs, outlined, -, regroup⟩
    rw [outlined.isClosed_eq, regroup, Bool.not_true]
  · decide

end Policy
end PolicyStudio
