import PolicyStudio.Proofs.Script.Reading
import PolicyStudio.Proofs.Script.Plain
import PolicyStudio.Proofs.Script.Tokens

/-!
# The two texts of a program

A program is read from two texts: its parameters from the header of a function that does
nothing, and its body from its source.  Here both are followed from their characters to
their trees, for any names as parameters and for a source that returns the value of a
name.  What the trees hold are not the names themselves but their compatible forms.
-/

namespace PolicyStudio
namespace Script
namespace Reader

variable {tokens : Array Token} {token second : Token} {rest : List Token} {self : Grammar}
  {names : List String} {function name : String}

/-! ## Parameters -/

/-- The token is this mark. -/
structure IsMark (text : String) (token : Token) : Prop where
  kind : token.kind = .mark
  text : token.text = text

namespace IsMark

variable {text other : String}

theorem calm (mark : IsMark text token) : token.isFault = false := by
  rw [Token.isFault, mark.kind]

theorem isText (mark : IsMark text token) : Reader.isText token text = true := by
  rw [Reader.isText, mark.kind, mark.text]
  exact beq_self_eq_true text

theorem isText_of_ne (mark : IsMark text token) (different : text ≠ other) :
    Reader.isText token other = false := by
  rw [Reader.isText, mark.kind, mark.text]
  exact beq_false_of_ne different

end IsMark

/-- The name as a parameter. -/
def parameterOf (token : Token) : Parameter :=
  .mk token.line token.name none

theorem reads_plainParameter {text : String} {found : List Parameter} (alone : IsNameAlone token)
    (mark : IsMark text second) (plain : text ≠ ":") (bare : text ≠ "=") :
    Reads tokens (plainParameter self functionParameters { positional := found })
      (token :: second :: rest) { positional := found ++ [parameterOf token] }
      (second :: rest) := by
  have named : Reads tokens (parameter functionParameters self.expression)
      (token :: second :: rest) (parameterOf token) (second :: rest) := by
    unfold parameter
    refine (reads_peek alone.calm).bind ((reads_name alone.calm alone.named).bind ?_)
    refine Reads.bind (reads_accept_not mark.calm (mark.isText_of_ne plain)) ?_
    exact reads_pure _ _
  have standard : Reads tokens (standardValue? self) (second :: rest) Option.none
      (second :: rest) := by
    unfold standardValue?
    refine (reads_peek mark.calm).bind ?_
    exact (reads_accept_not mark.calm (mark.isText_of_ne bare)).bind (reads_pure _ _)
  unfold plainParameter
  refine (reads_peek alone.calm).bind ?_
  rw [alone.apart _ (by decide)]
  exact named.bind (standard.bind (reads_pure _ _))

/-- What is divided begins with its first member. -/
theorem exists_intersperse_append {γ : Type} (comma first : γ) (others rest : List γ) :
    ∃ tail, (first :: others).intersperse comma ++ rest = first :: tail := by
  cases others with
  | nil => exact ⟨rest, rfl⟩
  | cons second others => exact ⟨_, rfl⟩

/-- Names with commas between them are read as parameters, one in each round. -/
theorem reads_parametersFrom {comma close : Token} {names : List Token} (some : names ≠ [])
    (alone : ∀ name ∈ names, IsNameAlone name) (isComma : IsMark "," comma)
    (isClose : IsMark ")" close) {rounds : Nat} (enough : names.length ≤ rounds)
    (found : List Parameter) :
    Reads tokens (parametersFrom self functionParameters rounds { positional := found })
      (names.intersperse comma ++ close :: rest)
      { positional := found ++ names.map parameterOf } (close :: rest) := by
  induction names generalizing rounds found with
  | nil => exact absurd rfl some
  | cons name others inductionHypothesis =>
    have named := alone name List.mem_cons_self
    cases rounds with
    | zero => cases enough
    | succ rounds =>
      unfold parametersFrom
      cases others with
      | nil =>
        refine (reads_peek named.calm).bind ?_
        rw [named.apart _ (by decide), named.apart _ (by decide), named.apart _ (by decide)]
        refine (reads_plainParameter named isClose (by decide) (by decide)).bind ?_
        exact (reads_accept_not isClose.calm (isClose.isText_of_ne (by decide))).bind
          (reads_pure _ _)
      | cons second others =>
        have next := alone second (List.mem_cons_of_mem _ List.mem_cons_self)
        have others := inductionHypothesis (List.cons_ne_nil _ _)
          (fun other member => alone other (List.mem_cons_of_mem _ member))
          (Nat.le_of_succ_le_succ enough) (found ++ [parameterOf name])
        rw [List.intersperse_cons_cons, List.cons_append, List.cons_append]
        rw [List.append_assoc] at others
        -- The next round begins with the next name, which the comma is followed by.
        rcases exists_intersperse_append comma second _ (close :: rest) with ⟨tail, equal⟩
        rw [equal] at others ⊢
        refine (reads_peek named.calm).bind ?_
        rw [named.apart _ (by decide), named.apart _ (by decide), named.apart _ (by decide)]
        refine (reads_plainParameter named isComma (by decide) (by decide)).bind ?_
        refine Reads.bind (reads_accept isComma.calm isComma.isText) ?_
        refine Reads.bind (reads_nextIs next.calm _) ?_
        rw [next.apart _ (by decide)]
        exact others

theorem reads_parameters {comma close : Token} {names : List Token}
    (alone : ∀ name ∈ names, IsNameAlone name) (isComma : IsMark "," comma)
    (isClose : IsMark ")" close) (enough : names.length ≤ tokens.size) :
    Reads tokens (parameters self functionParameters) (names.intersperse comma ++ close :: rest)
      (.ofPositional (names.map parameterOf)) (close :: rest) := by
  unfold parameters
  cases names with
  | nil =>
    refine Reads.bind (reads_nextIs isClose.calm _) ?_
    rw [show isText close functionParameters.ending = true from isClose.isText]
    exact reads_pure _ _
  | cons name others =>
    have named := alone name List.mem_cons_self
    have listed : Reads tokens (parametersFrom self functionParameters (tokens.size + 1) {})
        ((name :: others).intersperse comma ++ close :: rest)
        { positional := (name :: others).map parameterOf } (close :: rest) :=
      reads_parametersFrom (List.cons_ne_nil _ _) alone isComma isClose
        (Nat.le_succ_of_le enough) []
    rcases exists_intersperse_append comma name others (close :: rest) with ⟨tail, equal⟩
    rw [equal] at listed ⊢
    refine (reads_nextIs named.calm _).bind ?_
    rw [named.apart _ (by decide)]
    exact reads_rowLimit.bind (listed.bind (reads_pure _ _))

/-! ## The tokens of a header -/

/-- A word that is no keyword is a name and nothing else. -/
theorem isNameAlone_onLine (isWord : Text.isWord name.toList = true) (free : name ∉ keywords)
    (line : Nat) (brackets : List OpenBracket) :
    IsNameAlone (.onLine line brackets .name name.toList) := by
  have unlisted : keywords.contains name = false :=
    Bool.eq_false_iff.mpr (mt List.contains_iff_mem.mp free)
  refine ⟨rfl, ?_, fun text unnamed => ?_⟩
  · show (!keywords.contains (String.ofList name.toList)) = true
    rw [String.ofList_toList, unlisted]
    rfl
  · show (String.ofList name.toList == text) = false
    rw [String.ofList_toList]
    refine beq_false_of_ne fun same => ?_
    rw [← same, couldName, isWord, unlisted] at unnamed
    cases unnamed

theorem name_onLine (line : Nat) (brackets : List OpenBracket) (kind : TokenKind) (word : String) :
    (Token.onLine line brackets kind word.toList).name = Text.normal word := by
  rw [Token.name, Token.onLine, String.ofList_toList]

/-- The name as a token among the parameters. -/
def parameterToken (name : String) : Token :=
  .onLine 1 [⟨'(', 1⟩] .name name.toList

/-- The names of the parameters of a function, with commas between them. -/
def parameterTokens (names : List String) : List Token :=
  (names.map parameterToken).intersperse (.onLine 1 [⟨'(', 1⟩] .mark [','])

/-- What precedes the parameters of a function. -/
def openingTokens (function : String) : List Token :=
  [.onLine 1 [] .name "def".toList, .onLine 1 [] .name function.toList,
    .onLine 1 [⟨'(', 1⟩] .mark ['(']]

/-- What follows the parameters of a function that does nothing. -/
def emptyBody : List Token :=
  [.onLine 1 [] .mark [')'], .onLine 1 [] .mark [':'], .onLine 1 [] .name "pass".toList,
    .onLine 1 [] .newline []]

/-- What follows the text. -/
def endingToken (line : Nat) : Token :=
  .onLine line [] .ending []

/-- The tokens of a function that does nothing. -/
def headerTokens (function : String) (names : List String) : List Token :=
  openingTokens function ++ (parameterTokens names ++ (emptyBody ++ [endingToken 1]))

/-- Plain parameters with these names. -/
def plainParameters (names : List String) : Parameters :=
  .ofPositional (names.map fun name => .mk 1 (Text.normal name) none)

theorem map_parameterOf (names : List String) :
    (names.map parameterToken).map parameterOf =
      names.map fun name => .mk 1 (Text.normal name) none := by
  rw [List.map_map]
  refine List.map_congr_left fun name _ => ?_
  rw [Function.comp_apply, parameterOf, parameterToken, name_onLine]
  rfl

theorem reads_parameterTokens (alone : ∀ name ∈ names, IsNameAlone (parameterToken name))
    (enough : names.length ≤ tokens.size) :
    Reads tokens (parameters self functionParameters)
      (parameterTokens names ++ (emptyBody ++ [endingToken 1])) (plainParameters names)
      (emptyBody ++ [endingToken 1]) := by
  have few : (names.map parameterToken).length ≤ tokens.size := by
    rw [List.length_map]
    exact enough
  rw [plainParameters, ← map_parameterOf]
  exact reads_parameters (List.forall_mem_map.mpr alone) ⟨rfl, rfl⟩ ⟨rfl, rfl⟩ few

theorem reads_headerTokens (isName : IsNameAlone (.onLine 1 [] .name function.toList))
    (alone : ∀ name ∈ names, IsNameAlone (parameterToken name)) (enough : names.length ≤ tokens.size) :
    Reads tokens (functionDefinition self []) (headerTokens function names)
      (.function 1 0 (Text.normal function) (plainParameters names) [.pass] [] none)
      [endingToken 1] := by
  have body : Reads tokens (blockOf self "function definition" 1)
      [.onLine 1 [] .name "pass".toList, .onLine 1 [] .newline [], endingToken 1] [.pass]
      [endingToken 1] := by
    unfold blockOf
    refine Reads.bind (reads_nextIsKind rfl _) ?_
    exact reads_simpleStatements (reads_pass ⟨rfl, rfl⟩) rfl
  have parameters : Reads tokens (parameters self functionParameters) _ _ _ :=
    reads_parameterTokens alone enough
  have some : parameterTokens names ++ (emptyBody ++ [endingToken 1]) ≠ [] :=
    List.append_ne_nil_of_right_ne_nil _ (List.cons_ne_nil _ _)
  rcases List.exists_cons_of_ne_nil some with ⟨second, tail, equal⟩
  unfold functionDefinition headerTokens
  refine Reads.bind ((reads_peek rfl).bind (reads_pure _ _)) ?_
  refine Reads.get_bind fun state sees => ?_
  rw [sees.outside]
  refine Reads.bind (reads_expect rfl rfl) ?_
  refine Reads.bind (reads_name isName.calm isName.named) ?_
  rw [equal] at parameters ⊢
  refine Reads.bind (reads_demand rfl rfl) (parameters.bind ?_)
  refine Reads.bind (reads_expect rfl rfl) ?_
  refine Reads.bind (reads_accept_not rfl rfl) (Reads.bind (reads_pure _ _) ?_)
  refine Reads.bind (reads_demand rfl rfl) (body.bind ?_)
  rw [name_onLine]
  exact reads_pure _ _

/-! ## Trees -/

/-- Before a text is read, all its tokens come next. -/
theorem sees_initialState {cs : List Char} {firstLine : Nat} {read : List Token}
    (cut : tokensOf cs firstLine = read.toArray) (lead : String) :
    Sees read.toArray read { initialState cs firstLine lead with isStrict := false } := by
  refine ⟨⟨cut, rfl, fun position _ rule => ?_⟩, Nat.zero_add _, rfl, rfl⟩
  show ((Array.replicate _ ({} : Readings))[position]?.bind _) = none
  rw [Array.getElem?_replicate]
  split
  · cases rule <;> rfl
  · rfl

/-- A text is a program if its tokens are read as one. -/
theorem readProgram_eq {source : String} {read left : List Token} {program : Program}
    (cut : tokensOf (programCharacters source) 1 = read.toArray)
    (reads : ∀ depth, Reads read.toArray
      (statementsUntil (grammar (depth + 3)) .ending (read.length + 1) []) read program left) :
    readProgram source = .ok program := by
  let state := initialState (programCharacters source) 1 ""
  let whole : Reader Program := do
    statementsUntil (grammar (8 * state.tokens.size + 16)) .ending (← rowLimit) []
  have known : Reads read.toArray whole read program left := reads_rowLimit.bind (reads _)
  rcases known _ (sees_initialState cut "") with ⟨after, ended, -⟩
  show readTwice whole state = _
  rw [readTwice, ended]

/-- A function that does nothing is read with its parameters. -/
theorem readProgram_header {source : String}
    (cut : tokensOf (programCharacters source) 1 = (headerTokens function names).toArray)
    (isName : IsNameAlone (.onLine 1 [] .name function.toList))
    (alone : ∀ name ∈ names, IsNameAlone (parameterToken name)) :
    readProgram source =
      .ok [.function 1 0 (Text.normal function) (plainParameters names) [.pass] [] none] := by
  have enough : names.length ≤ (headerTokens function names).toArray.size := by
    have short : names.length ≤ (parameterTokens names).length := by
      rw [parameterTokens, List.length_intersperse, List.length_map]
      omega
    rw [List.size_toArray, headerTokens, List.length_append, List.length_append]
    omega
  have statement (self : Grammar) : Reads (headerTokens function names).toArray
      (statementsHere self) (headerTokens function names)
      [.function 1 0 (Text.normal function) (plainParameters names) [.pass] [] none]
      [endingToken 1] := by
    unfold statementsHere
    exact Reads.bind (reads_peek rfl)
      ((reads_headerTokens isName alone enough).bind (reads_pure _ _))
  exact readProgram_eq cut fun depth =>
    reads_statementsUntil rfl nofun (statement _) (reads_statementsUntil_end _ _ rfl)

/-- A line that returns a name. -/
def returnLine (name : String) : List Token :=
  [.onLine 1 [] .name "return".toList, .onLine 1 [] .name name.toList, .onLine 1 [] .newline []]

/-- The next line, which does nothing. -/
def passLine : List Token :=
  [.onLine 2 [] .name "pass".toList, .onLine 2 [] .newline []]

/-- The statement that returns a name is read. -/
theorem readProgram_return {source : String}
    (cut : tokensOf (programCharacters source) 1 =
      (returnLine name ++ (passLine ++ [endingToken 2])).toArray)
    (alone : IsNameAlone (.onLine 1 [] .name name.toList)) :
    readProgram source = .ok (returnOf 1 (Text.normal name)) := by
  let all := returnLine name ++ (passLine ++ [endingToken 2])
  have ends : EndsLine (.onLine 1 [] .newline []) := rfl
  have first (depth : Nat) : Reads all.toArray (statementsHere (grammar (depth + 3))) all
      [.return (some (.name 1 (Text.normal name)))] (passLine ++ [endingToken 2]) := by
    refine statementsHere_of_keyword ⟨rfl, rfl⟩ (by decide) _ (reads_simpleStatements ?_ ends)
    rw [← name_onLine 1 [] .name name]
    exact reads_return ⟨rfl, rfl⟩ (reads_expression alone ends depth) alone ends
  have second (self : Grammar) : Reads all.toArray (statementsHere self)
      (passLine ++ [endingToken 2]) [.pass] [endingToken 2] :=
    statementsHere_of_keyword ⟨rfl, rfl⟩ (by decide) _
      (reads_simpleStatements (reads_pass ⟨rfl, rfl⟩) rfl)
  exact readProgram_eq cut fun depth => reads_statementsUntil rfl nofun (first depth)
    (reads_statementsUntil rfl nofun (second _) (reads_statementsUntil_end _ _ rfl))

/-! ## Texts -/

/-- The text of a function that does nothing. -/
def headerText (function : String) (names : List String) : String :=
  "def " ++ function ++ "(" ++ ", ".intercalate names ++ "): pass"

/-- The text that returns a name, with a last line that does nothing. -/
def returnText (name : String) : String :=
  "return " ++ name ++ "\npass\n"

theorem toList_headerText (function : String) (names : List String) :
    (headerText function names).toList = "def".toList ++ ' ' :: (function.toList ++
      '(' :: ([',', ' '].intercalate (names.map String.toList) ++ "): pass".toList)) := by
  simp only [headerText, String.toList_append, String.toList_intercalate, List.append_assoc]
  rfl

theorem toList_returnText (name : String) :
    (returnText name).toList =
      "return".toList ++ ' ' :: (name.toList ++ '\n' :: "pass\n".toList) := by
  simp only [returnText, String.toList_append, List.append_assoc]
  rfl

theorem standsInLine_headerText (isName : Text.isWord function.toList = true)
    (areNames : ∀ name ∈ names, Text.isWord name.toList = true) :
    (headerText function names).toList.all standsInLine = true := by
  have listed : ([',', ' '].intercalate (names.map String.toList)).all standsInLine = true :=
    Text.all_intercalate (by decide) (List.forall_mem_map.mpr fun name member =>
      all_standsInLine_of_isWord (areNames name member))
  rw [toList_headerText, List.all_append, List.all_cons, List.all_append, List.all_cons,
    List.all_append, listed, all_standsInLine_of_isWord isName]
  decide

theorem standsInLine_returnText (isName : Text.isWord name.toList = true) :
    (returnText name).toList.all standsInLine = true := by
  rw [toList_returnText, List.all_append, List.all_cons, List.all_append,
    all_standsInLine_of_isWord isName]
  decide

theorem programCharacters_headerText (isName : Text.isWord function.toList = true)
    (areNames : ∀ name ∈ names, Text.isWord name.toList = true) :
    programCharacters (headerText function names) = "def".toList ++ ' ' :: (function.toList ++
      '(' :: ([',', ' '].intercalate (names.map String.toList) ++ "): pass\n".toList)) := by
  have last : (headerText function names).toList.getLast? = some 's' := by
    rw [headerText, String.toList_append, List.getLast?_append]
    rfl
  rw [programCharacters_of_line (standsInLine_headerText isName areNames), last,
    if_neg (by decide), toList_headerText]
  simp only [List.append_assoc, List.cons_append]
  rfl

theorem programCharacters_returnText (isName : Text.isWord name.toList = true) :
    programCharacters (returnText name) =
      "return".toList ++ ' ' :: (name.toList ++ '\n' :: "pass\n".toList) := by
  have last : (returnText name).toList.getLast? = some '\n' := by
    rw [returnText, String.toList_append, List.getLast?_append]
    rfl
  rw [programCharacters_of_line (standsInLine_returnText isName), if_pos last, toList_returnText]

/-! ## From texts to tokens -/

section

open Lexer

theorem cuts_parameterTokens (areNames : ∀ name ∈ names, Text.isWord name.toList = true)
    (tail : List Char) :
    Cuts (within 1 [⟨'(', 1⟩] ([',', ' '].intercalate (names.map String.toList) ++ ')' :: tail))
      (parameterTokens names) (within 1 [⟨'(', 1⟩] (')' :: tail)) := by
  cases names with
  | nil => exact .nil _
  | cons name rest =>
    have ends : EndsName ')' := by decide
    rw [parameterTokens, show parameterToken = Token.onLine 1 [⟨'(', 1⟩] .name ∘ String.toList from rfl,
      ← List.map_map]
    exact cuts_words (List.forall_mem_map.mpr areNames) (List.cons_ne_nil _ _) ends

/-- A word behind a blank is cut off. -/
theorem cuts_next_word {line : Nat} {brackets : List OpenBracket} {word tail : List Char}
    (isWord : Text.isWord word = true) {stop : Char} (ends : EndsName stop) :
    Cuts (within line brackets (' ' :: (word ++ stop :: tail)))
      [.onLine line brackets .name word] (within line brackets (stop :: tail)) :=
  (cuts_word isWord ends).blank (List.cons_ne_nil _ _)

/-- The tokens of the header of a function that does nothing. -/
theorem tokensOf_headerText (isName : Text.isWord function.toList = true)
    (areNames : ∀ name ∈ names, Text.isWord name.toList = true) :
    tokensOf (programCharacters (headerText function names)) 1 =
      (headerTokens function names).toArray := by
  let listed := [',', ' '].intercalate (names.map String.toList)
  have isPass : Text.isWord "pass".toList = true := by decide
  have opening : Cuts (before 0 1 (programCharacters (headerText function names)))
      (openingTokens function) (within 1 [⟨'(', 1⟩] (listed ++ "): pass\n".toList)) := by
    rw [programCharacters_headerText isName areNames]
    exact (cuts_first_word (by decide) (by decide)).append
      ((cuts_next_word isName (by decide)).append (cuts_open (by decide)))
  have body : Cuts (within 1 [⟨'(', 1⟩] "): pass\n".toList) emptyBody (before 1 1 []) :=
    cuts_close.append (cuts_colon.append ((cuts_next_word isPass (by decide)).append cuts_newline))
  have cuts := opening.append ((cuts_parameterTokens areNames _).append body)
  rw [cuts.tokensOf_eq (fun _ => next_before_nil) rfl, List.append_assoc, List.append_assoc]
  rfl

/-- The tokens of a text that returns a name. -/
theorem tokensOf_returnText (isName : Text.isWord name.toList = true) :
    tokensOf (programCharacters (returnText name)) 1 =
      (returnLine name ++ (passLine ++ [endingToken 2])).toArray := by
  have isPass : Text.isWord "pass".toList = true := by decide
  have first : Cuts (before 0 1 (programCharacters (returnText name))) (returnLine name)
      (before 1 1 "pass\n".toList) := by
    rw [programCharacters_returnText isName]
    exact (cuts_first_word (by decide) (by decide)).append
      ((cuts_next_word isName (by decide)).append cuts_newline)
  have second : Cuts (before 1 1 "pass\n".toList) passLine (before 2 2 []) :=
    (cuts_first_word isPass (by decide)).append cuts_newline
  rw [(first.append second).tokensOf_eq (fun _ => next_before_nil) rfl, List.append_assoc]
  rfl

end

/-- The header of a function with names as parameters is read as such. -/
theorem readProgram_headerText (isWord : Text.isWord function.toList = true)
    (free : function ∉ keywords)
    (areNames : ∀ name ∈ names, Text.isWord name.toList = true ∧ name ∉ keywords) :
    readProgram (headerText function names) =
      .ok [.function 1 0 (Text.normal function) (plainParameters names) [.pass] [] none] :=
  readProgram_header (tokensOf_headerText isWord fun name member => (areNames name member).1)
    (isNameAlone_onLine isWord free _ _) fun name member =>
      isNameAlone_onLine (areNames name member).1 (areNames name member).2 _ _

/-- The text that returns a name is read as such. -/
theorem readProgram_returnText (isWord : Text.isWord name.toList = true) (free : name ∉ keywords) :
    readProgram (returnText name) = .ok (returnOf 1 (Text.normal name)) :=
  readProgram_return (tokensOf_returnText isWord) (isNameAlone_onLine isWord free _ _)

end Reader
end Script
end PolicyStudio
