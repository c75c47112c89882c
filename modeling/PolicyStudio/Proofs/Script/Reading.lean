import PolicyStudio.Script.Grammar.Compound

/-!
# Reading known tokens

Where the tokens that come next are known, what a rule comes to can be followed token by
token.  `Reads` says which value a rule comes to and which tokens it leaves, and `Fails`
that it has to go back.  Both are about the first reading of a text, which looks for no
mistakes, and both compose, so that each rule of the grammar needs one lemma.

What was read at a place before is not read again there.  `Fresh` therefore says that
nothing is known yet from the next token on.

A name that stands alone up to the end of its line is an expression.  To find that, the
reader goes through a rule for each kind of operator, and each rule has to see that its
own operator does not follow.  Two statements of one line are followed here, too: the one
that returns such an expression and the one that does nothing.
-/

namespace PolicyStudio
namespace Script
namespace Reader

/-- Nothing has been read from this place on, and no mistakes are looked for. -/
structure Fresh (tokens : Array Token) (ahead : List Token) (state : ReaderState) : Prop where
  same : state.tokens = tokens
  lenient : state.isStrict = false
  unknown : ∀ position, tokens.size ≤ position + ahead.length → ∀ rule,
    (state.known[position]?.bind fun readings => readings.get? rule) = none

/-- These tokens come next, outside of all blocks. -/
structure Sees (tokens : Array Token) (ahead : List Token) (state : ReaderState) : Prop extends
    Fresh tokens ahead state where
  place : state.position + ahead.length = tokens.size
  next : tokens.toList.drop state.position = ahead
  outside : state.depth = 0

section

variable {α β : Type} {tokens : Array Token} {ahead middle left : List Token} {value : α}

/-- Where these tokens come next, the reader comes to the value, and those are left. -/
def Reads (tokens : Array Token) (reader : Reader α) (ahead : List Token) (value : α)
    (left : List Token) : Prop :=
  ∀ state, Sees tokens ahead state →
    ∃ after, reader state = .ok value after ∧ Sees tokens left after

/-- Where these tokens come next, the reader has to go back. -/
def Fails (tokens : Array Token) (reader : Reader α) (ahead : List Token) : Prop :=
  ∀ state, Sees tokens ahead state →
    ∃ after, reader state = .error .mismatch after ∧ Fresh tokens ahead after

theorem reads_pure (value : α) (ahead : List Token) : Reads tokens (pure value) ahead value ahead :=
  fun state sees => ⟨state, rfl, sees⟩

theorem Reads.bind {reader : Reader α} {next : α → Reader β} {result : β}
    (first : Reads tokens reader ahead value middle)
    (second : Reads tokens (next value) middle result left) :
    Reads tokens (reader >>= next) ahead result left := by
  intro state sees
  rcases first state sees with ⟨between, read, sees⟩
  rcases second between sees with ⟨after, ended, sees⟩
  refine ⟨after, ?_, sees⟩
  show EStateM.bind reader next state = _
  rw [EStateM.bind, read]
  exact ended

theorem fails_mismatch : Fails tokens (mismatch : Reader α) ahead :=
  fun state sees => ⟨state, rfl, sees.toFresh⟩

theorem Fails.bind {reader : Reader α} {next : α → Reader β}
    (first : Fails tokens reader ahead) : Fails tokens (reader >>= next) ahead := by
  intro state sees
  rcases first state sees with ⟨after, failed, fresh⟩
  refine ⟨after, ?_, fresh⟩
  show EStateM.bind reader next state = _
  rw [EStateM.bind, failed]

theorem Reads.bind_fails {reader : Reader α} {next : α → Reader β}
    (first : Reads tokens reader ahead value ahead)
    (second : Fails tokens (next value) ahead) : Fails tokens (reader >>= next) ahead := by
  intro state sees
  rcases first state sees with ⟨between, read, sees⟩
  rcases second between sees with ⟨after, failed, fresh⟩
  refine ⟨after, ?_, fresh⟩
  show EStateM.bind reader next state = _
  rw [EStateM.bind, read]
  exact failed

theorem Reads.get_bind {next : ReaderState → Reader β} {result : β}
    (rest : ∀ state, Sees tokens ahead state → Reads tokens (next state) ahead result left) :
    Reads tokens (get >>= next) ahead result left :=
  fun state sees => rest state sees state sees

theorem reads_modify {change : ReaderState → ReaderState}
    (kept : ∀ state, Sees tokens ahead state → Sees tokens ahead (change state)) :
    Reads tokens (modify change) ahead () ahead :=
  fun state sees => ⟨change state, rfl, kept state sees⟩

theorem reads_set {after : ReaderState} (sees : Sees tokens left after) :
    Reads tokens (MonadStateOf.set after) ahead () left :=
  fun _ _ => ⟨after, rfl, sees⟩

/-! ## Tokens -/

variable {token second : Token} {rest : List Token}

theorem reads_peek (calm : token.isFault = false) :
    Reads tokens peek (token :: rest) token (token :: rest) := by
  unfold peek lookAhead
  refine Reads.get_bind fun state sees => ?_
  have here : min (state.position + 0) (state.tokens.size - 1) = state.position := by
    have place := sees.place
    rw [List.length_cons] at place
    rw [sees.same]
    omega
  have found : state.tokens[state.position]? = some token := by
    rw [sees.same, ← Array.getElem?_toList, ← List.head?_drop, sees.next, List.head?_cons]
  have there : tokenAt state state.position = token := by
    rw [tokenAt, found]
  have seen : Sees tokens (token :: rest)
      { state with seen := max state.seen (state.position + 1) } :=
    ⟨⟨sees.same, sees.lenient, sees.unknown⟩, sees.place, sees.next, sees.outside⟩
  dsimp only
  rw [here, there]
  refine (reads_set seen).bind ?_
  rcases token with ⟨kind, _, _, _, _, _⟩
  cases kind with
  | fault => cases calm
  | _ => exact reads_pure _ _

theorem reads_skip : Reads tokens skip (token :: second :: rest) () (second :: rest) := by
  intro state sees
  have place := sees.place
  rw [List.length_cons] at place
  have here : min (state.position + 1) (state.tokens.size - 1) = state.position + 1 := by
    rw [sees.same]
    rw [List.length_cons] at place
    omega
  refine ⟨{ state with position := min (state.position + 1) (state.tokens.size - 1) }, rfl, ?_⟩
  rw [here]
  refine ⟨⟨sees.same, sees.lenient, fun position behind => sees.unknown position ?_⟩, ?_, ?_,
    sees.outside⟩
  · rw [List.length_cons]
    omega
  · show state.position + 1 + (second :: rest).length = tokens.size
    omega
  · show tokens.toList.drop (state.position + 1) = second :: rest
    rw [← List.drop_drop, sees.next]
    rfl

theorem reads_mark : Reads tokens mark ahead (tokens.size - ahead.length) ahead := by
  intro state sees
  refine ⟨state, ?_, sees⟩
  have place := sees.place
  have same : tokens.size - ahead.length = state.position := by omega
  rw [same]
  rfl

theorem reads_rowLimit : Reads tokens rowLimit ahead (tokens.size + 1) ahead := by
  intro state sees
  refine ⟨state, ?_, sees⟩
  rw [← sees.same]
  rfl

theorem reads_isStrict : Reads tokens isStrict ahead false ahead := by
  intro state sees
  refine ⟨state, ?_, sees⟩
  rw [← sees.lenient]
  rfl

theorem reads_nextIs (calm : token.isFault = false) (text : String) :
    Reads tokens (nextIs text) (token :: rest) (isText token text) (token :: rest) :=
  (reads_peek calm).bind (reads_pure _ _)

theorem reads_nextIsAny (calm : token.isFault = false) (texts : List String) :
    Reads tokens (nextIsAny texts) (token :: rest) (texts.any (isText token)) (token :: rest) :=
  (reads_peek calm).bind (reads_pure _ _)

theorem reads_nextIsKind (calm : token.isFault = false) (kind : TokenKind) :
    Reads tokens (nextIsKind kind) (token :: rest) (decide (token.kind = kind)) (token :: rest) :=
  (reads_peek calm).bind (reads_pure _ _)

theorem reads_accept (calm : token.isFault = false) {text : String}
    (comes : isText token text = true) :
    Reads tokens (accept text) (token :: second :: rest) true (second :: rest) := by
  unfold accept
  refine (reads_nextIs calm text).bind ?_
  rw [comes]
  exact reads_skip.bind (reads_pure _ _)

theorem reads_accept_not (calm : token.isFault = false) {text : String}
    (other : isText token text = false) :
    Reads tokens (accept text) (token :: rest) false (token :: rest) := by
  unfold accept
  refine (reads_nextIs calm text).bind ?_
  rw [other]
  exact reads_pure _ _

theorem reads_expect (calm : token.isFault = false) {text : String}
    (comes : isText token text = true) :
    Reads tokens (expect text) (token :: second :: rest) () (second :: rest) := by
  unfold expect
  refine (reads_accept calm comes).bind ?_
  exact reads_pure _ _

theorem fails_expect (calm : token.isFault = false) {text : String}
    (other : isText token text = false) : Fails tokens (expect text) (token :: rest) := by
  unfold expect
  refine (reads_accept_not calm other).bind_fails ?_
  exact fails_mismatch

theorem reads_demand (calm : token.isFault = false) {text : String}
    (comes : isText token text = true) :
    Reads tokens (demand text) (token :: second :: rest) () (second :: rest) := by
  unfold demand
  refine (reads_accept calm comes).bind ?_
  exact reads_pure _ _

theorem reads_expectKind (calm : token.isFault = false) :
    Reads tokens (expectKind token.kind) (token :: second :: rest) () (second :: rest) := by
  unfold expectKind
  refine (reads_nextIsKind calm _).bind ?_
  rw [decide_eq_true rfl]
  exact (reads_pure _ _).bind reads_skip

theorem reads_name (calm : token.isFault = false) (named : isName token = true) :
    Reads tokens name (token :: second :: rest) token.name (second :: rest) := by
  unfold name
  refine (reads_peek calm).bind ?_
  rw [named]
  exact reads_skip.bind (reads_pure _ _)

/-! ## Steps back -/

theorem Reads.attempt {reader : Reader α} (read : Reads tokens reader ahead value left) :
    Reads tokens (attempt? reader) ahead (some value) left := by
  intro state sees
  rcases read state sees with ⟨after, ended, sees⟩
  refine ⟨after, ?_, sees⟩
  rw [attempt?, ended]

theorem Fails.attempt {reader : Reader α} (failed : Fails tokens reader ahead) :
    Reads tokens (attempt? reader) ahead none ahead := by
  intro state sees
  rcases failed state sees with ⟨after, ended, fresh⟩
  refine ⟨{ after with position := state.position, depth := state.depth }, ?_,
    ⟨⟨fresh.same, fresh.lenient, fresh.unknown⟩, sees.place, sees.next, sees.outside⟩⟩
  rw [attempt?, ended]

theorem reads_probe (reader : Reader Unit) : Reads tokens (probe reader) ahead () ahead := by
  unfold probe
  refine reads_isStrict.bind ?_
  exact reads_pure _ _

theorem Reads.remembered {rule : Rule} {reader : Reader Expression} {value : Expression}
    (read : Reads tokens reader ahead value left) (shorter : left.length < ahead.length) :
    Reads tokens (remembered rule reader) ahead value left := by
  unfold Reader.remembered
  refine reads_mark.bind (.get_bind fun state sees => ?_)
  have untried : (state.known[tokens.size - ahead.length]?.bind fun readings =>
      readings.get? rule) = none := sees.unknown _ (by omega) rule
  rw [untried]
  refine read.attempt.bind (reads_mark.bind ?_)
  refine (reads_modify fun after later => ?_).bind (reads_pure _ _)
  refine ⟨⟨later.same, later.lenient, fun position behind other => ?_⟩, later.place, later.next,
    later.outside⟩
  have elsewhere : tokens.size - ahead.length ≠ position := by
    have place := sees.place
    omega
  show ((after.known.modify _ _)[position]?.bind _) = none
  rw [Array.getElem?_modify, if_neg elsewhere]
  exact later.unknown position behind other

end

/-! ## Tokens of a name -/

variable {tokens : Array Token} {ahead left : List Token}

/-- The text is a word and no keyword. -/
def couldName (text : String) : Bool :=
  Text.isWord text.toList && !keywords.contains text

/-- The token is a name, and nothing else to any rule. -/
structure IsNameAlone (token : Token) : Prop where
  kind : token.kind = .name
  named : isName token = true
  apart : ∀ text, couldName text = false → isText token text = false

/-- The token ends a line. -/
def EndsLine (token : Token) : Prop :=
  token.kind = .newline

theorem IsNameAlone.calm {token : Token} (alone : IsNameAlone token) : token.isFault = false := by
  rw [Token.isFault, alone.kind]

theorem EndsLine.calm {token : Token} (ends : EndsLine token) : token.isFault = false := by
  rw [Token.isFault, ends]

theorem EndsLine.silent {token : Token} (ends : EndsLine token) (text : String) :
    isText token text = false := by
  rw [isText, ends]

/-! ## A name as an expression -/

variable {token second stop : Token} {rest : List Token} {self : Grammar} {value : Expression}

/-- The name as an expression. -/
def nameOf (token : Token) : Expression :=
  .name token.line token.name

theorem fails_attachment (ends : EndsLine stop) (line : Nat) (value : Expression) :
    Fails tokens (attachment self line value) (stop :: rest) := by
  unfold attachment
  refine (reads_accept_not ends.calm (ends.silent _)).bind_fails ?_
  refine Reads.bind_fails (reads_nextIsAny ends.calm _) ?_
  simp only [List.any_cons, List.any_nil, ends.silent, Bool.or_self]
  refine Reads.bind_fails (reads_accept_not ends.calm (ends.silent _)) ?_
  exact (fails_expect ends.calm (ends.silent _)).bind

theorem reads_atom (alone : IsNameAlone token) :
    Reads tokens (atom self) (token :: stop :: rest) (nameOf token) (stop :: rest) := by
  unfold atom
  refine (reads_peek alone.calm).bind ?_
  rw [alone.kind, alone.named]
  exact reads_skip.bind (reads_pure _ _)

theorem reads_primary (alone : IsNameAlone token) (ends : EndsLine stop) :
    Reads tokens (primary self) (token :: stop :: rest) (nameOf token) (stop :: rest) := by
  unfold primary
  refine (reads_peek alone.calm).bind ?_
  rw [alone.apart _ (by decide)]
  refine (reads_atom alone).bind (reads_rowLimit.bind ?_)
  unfold attached
  exact (fails_attachment ends _ _).attempt.bind (reads_pure _ _)

theorem reads_power {primary : Reader Expression} {value : Expression}
    (operand : Reads tokens primary ahead value (stop :: rest)) (ends : EndsLine stop) :
    Reads tokens (power self primary) ahead value (stop :: rest) := by
  unfold power
  refine operand.bind ?_
  exact (fails_expect ends.calm (ends.silent _)).bind.attempt.bind (reads_pure _ _)

theorem reads_factor {primary : Reader Expression}
    (operand : Reads tokens primary (token :: ahead) value (stop :: rest))
    (alone : IsNameAlone token) (ends : EndsLine stop) :
    Reads tokens (factor self primary) (token :: ahead) value (stop :: rest) := by
  unfold factor
  refine (reads_peek alone.calm).bind ?_
  have marks : ∀ entry ∈ signs, couldName entry.1 = false := by decide
  have unsigned : signs.find? (fun entry => isText token entry.1) = none :=
    List.find?_eq_none.mpr fun entry member =>
      Bool.eq_false_iff.mp (alone.apart entry.1 (marks entry member))
  rw [unsigned]
  exact reads_power operand ends

theorem reads_level {operators : List (String × BinaryOperator)} {operand : Reader Expression}
    (first : Reads tokens operand ahead value (stop :: rest)) (ends : EndsLine stop) :
    Reads tokens (level operators operand) ahead value (stop :: rest) := by
  unfold level
  refine first.bind (reads_rowLimit.bind ?_)
  unfold leftChain
  refine (reads_peek ends.calm).bind ?_
  have none : operators.find? (fun entry => isText stop entry.1) = none :=
    List.find?_eq_none.mpr fun entry _ => Bool.eq_false_iff.mp (ends.silent entry.1)
  rw [none]
  exact reads_pure _ _

theorem reads_bitwiseOr {primary : Reader Expression}
    (operand : Reads tokens primary (token :: ahead) value (stop :: rest))
    (alone : IsNameAlone token) (ends : EndsLine stop) :
    Reads tokens (bitwiseOr self primary) (token :: ahead) value (stop :: rest) :=
  reads_level (reads_level (reads_level (reads_level (reads_level (reads_level
    (reads_factor operand alone ends) ends) ends) ends) ends) ends) ends

theorem reads_comparisons {operand : Reader Expression} (ends : EndsLine stop) (rounds : Nat)
    (found : List (ComparisonOperator × Expression)) :
    Reads tokens (comparisons operand (rounds + 1) found) (stop :: rest) found.reverse
      (stop :: rest) := by
  have none : Fails tokens comparisonOperator (stop :: rest) := by
    unfold comparisonOperator
    refine (reads_peek ends.calm).bind_fails ?_
    have none : comparisonMarks.find? (fun entry => isText stop entry.1) = none :=
      List.find?_eq_none.mpr fun entry _ => Bool.eq_false_iff.mp (ends.silent entry.1)
    rw [none]
    refine (reads_accept_not ends.calm (ends.silent _)).bind_fails ?_
    exact (fails_expect ends.calm (ends.silent _)).bind
  unfold comparisons
  exact none.bind.attempt.bind (reads_pure _ _)

theorem reads_comparison {operand : Reader Expression}
    (first : Reads tokens operand ahead value (stop :: rest)) (ends : EndsLine stop) :
    Reads tokens (comparison operand) ahead value (stop :: rest) := by
  unfold comparison
  exact first.bind (reads_rowLimit.bind ((reads_comparisons ends _ _).bind (reads_pure _ _)))

theorem reads_inversion {operand : Reader Expression}
    (first : Reads tokens operand (token :: ahead) value (stop :: rest))
    (alone : IsNameAlone token) (ends : EndsLine stop) (rounds : Nat) :
    Reads tokens (inversion operand (rounds + 1)) (token :: ahead) value (stop :: rest) := by
  unfold inversion
  refine (reads_accept_not alone.calm (alone.apart _ (by decide))).bind ?_
  exact reads_comparison first ends

theorem reads_joinedBy {word : String} {operand : Reader Expression} (ends : EndsLine stop)
    (rounds : Nat) (found : List Expression) :
    Reads tokens (joinedBy word operand (rounds + 1) found) (stop :: rest) found.reverse
      (stop :: rest) := by
  unfold joinedBy
  exact (fails_expect ends.calm (ends.silent _)).bind.attempt.bind (reads_pure _ _)

theorem reads_disjunctionOf {operand : Reader Expression}
    (first : Reads tokens operand (token :: ahead) value (stop :: rest))
    (alone : IsNameAlone token) (ends : EndsLine stop) :
    Reads tokens (disjunctionOf operand) (token :: ahead) value (stop :: rest) := by
  have single : Reads tokens (conjunction operand) (token :: ahead) value (stop :: rest) := by
    unfold conjunction
    refine reads_rowLimit.bind ((reads_inversion first alone ends _).bind ?_)
    exact (reads_joinedBy ends _ _).bind (reads_pure _ _)
  unfold disjunctionOf
  refine single.bind (reads_rowLimit.bind ?_)
  exact (reads_joinedBy ends _ _).bind (reads_pure _ _)

theorem reads_conditional {items : Reader Expression}
    (first : Reads tokens self.disjunction ahead value (stop :: rest)) (ends : EndsLine stop) :
    Reads tokens (conditional self items) ahead value (stop :: rest) := by
  unfold conditional
  refine reads_mark.bind (first.bind ?_)
  refine (reads_probe _).bind ((reads_probe _).bind (reads_isStrict.bind ?_))
  exact (fails_expect ends.calm (ends.silent _)).bind.attempt.bind (reads_pure _ _)

theorem reads_expression (alone : IsNameAlone token) (ends : EndsLine stop) (depth : Nat) :
    Reads tokens (grammar (depth + 3)).expression (token :: stop :: rest) (nameOf token)
      (stop :: rest) := by
  have shorter : (stop :: rest).length < (token :: stop :: rest).length := Nat.lt_succ_self _
  have bitwise : Reads tokens (grammar (depth + 1)).bitwise (token :: stop :: rest) (nameOf token)
      (stop :: rest) :=
    Reads.remembered (reads_bitwiseOr (reads_primary alone ends) alone ends) shorter
  have disjunction : Reads tokens (grammar (depth + 2)).disjunction (token :: stop :: rest)
      (nameOf token) (stop :: rest) :=
    Reads.remembered (reads_disjunctionOf bitwise alone ends) shorter
  refine Reads.remembered ?_ shorter
  unfold grammar.readExpression
  refine (reads_nextIs alone.calm _).bind ?_
  rw [alone.apart _ (by decide)]
  exact reads_conditional disjunction ends

theorem reads_starExpressions
    (expression : Reads tokens self.expression (token :: ahead) value (stop :: rest))
    (alone : IsNameAlone token) (ends : EndsLine stop) :
    Reads tokens (starExpressions self) (token :: ahead) value (stop :: rest) := by
  have item : Reads tokens (starExpression self) (token :: ahead) value (stop :: rest) := by
    unfold starExpression
    refine (reads_peek alone.calm).bind ?_
    rw [alone.apart _ (by decide)]
    exact expression
  have single : Reads tokens (commaList (starExpression self)) (token :: ahead) ([value], false)
      (stop :: rest) := by
    unfold commaList
    refine item.bind (reads_rowLimit.bind ?_)
    unfold commaRest
    exact (reads_accept_not ends.calm (ends.silent _)).bind (reads_pure _ _)
  unfold starExpressions
  exact single.bind (reads_pure _ _)

/-! ## Statements on a line -/

/-- The token is this keyword. -/
structure IsKeyword (word : String) (token : Token) : Prop where
  kind : token.kind = .name
  text : token.text = word

theorem IsKeyword.calm {word : String} (keyword : IsKeyword word token) :
    token.isFault = false := by
  rw [Token.isFault, keyword.kind]

theorem reads_pass (keyword : IsKeyword "pass" token) :
    Reads tokens (simpleStatement self) (token :: stop :: rest) .pass (stop :: rest) := by
  unfold simpleStatement
  refine (reads_peek keyword.calm).bind ?_
  rw [keyword.kind, keyword.text]
  exact reads_skip.bind (reads_pure _ _)

theorem reads_return {word : Token} (keyword : IsKeyword "return" word)
    (expression : Reads tokens self.expression (token :: ahead) value (stop :: rest))
    (alone : IsNameAlone token) (ends : EndsLine stop) :
    Reads tokens (simpleStatement self) (word :: token :: ahead) (.return (some value))
      (stop :: rest) := by
  have goesOn : Reads tokens atStatementEnd (token :: ahead) false (token :: ahead) := by
    have unended : Reads tokens (nextIsKind .newline) (token :: ahead)
        (decide (token.kind = .newline)) (token :: ahead) := reads_nextIsKind alone.calm _
    rw [alone.kind] at unended
    unfold atStatementEnd
    refine (reads_nextIs alone.calm _).bind ?_
    rw [alone.apart _ (by decide)]
    exact unended
  unfold simpleStatement
  refine (reads_peek keyword.calm).bind ?_
  rw [keyword.kind, keyword.text]
  refine reads_skip.bind (goesOn.bind ?_)
  exact (reads_starExpressions expression alone ends).bind (reads_pure _ _)

theorem reads_simpleStatements {statement : Statement} {next : Token}
    (first : Reads tokens (simpleStatement self) ahead statement (stop :: next :: rest))
    (ends : EndsLine stop) :
    Reads tokens (simpleStatements self) ahead [statement] (next :: rest) := by
  unfold simpleStatements
  refine reads_rowLimit.bind ?_
  unfold simpleStatements.go
  refine first.bind ((reads_accept_not ends.calm (ends.silent _)).bind ?_)
  exact Reads.bind (ends ▸ reads_expectKind ends.calm) (reads_pure _ _)

/-- The keyword stands in front of no block. -/
theorem statementsHere_of_keyword {word : String} (keyword : IsKeyword word token)
    (listed : word ∈ ["return", "pass"]) (statements : List Statement)
    (line : Reads tokens (simpleStatements self) (token :: ahead) statements left) :
    Reads tokens (statementsHere self) (token :: ahead) statements left := by
  unfold statementsHere
  refine (reads_peek keyword.calm).bind ?_
  rw [keyword.kind, keyword.text]
  simp only [List.mem_cons, List.not_mem_nil, or_false] at listed
  rcases listed with rfl | rfl <;> exact line

theorem reads_statementsUntil_end (rounds : Nat) (found : List (List Statement))
    (calm : token.isFault = false) :
    Reads tokens (statementsUntil self token.kind (rounds + 1) found) (token :: rest)
      found.reverse.flatten (token :: rest) := by
  unfold statementsUntil
  refine (reads_nextIsKind calm _).bind ?_
  rw [decide_eq_true rfl]
  exact reads_pure _ _

theorem reads_statementsUntil {final : TokenKind} {rounds : Nat} {found : List (List Statement)}
    {statements result : List Statement} {middle : List Token}
    (calm : token.isFault = false) (other : token.kind ≠ final)
    (first : Reads tokens (statementsHere self) (token :: ahead) statements middle)
    (others : Reads tokens (statementsUntil self final rounds (statements :: found)) middle result
      left) :
    Reads tokens (statementsUntil self final (rounds + 1) found) (token :: ahead) result left := by
  unfold statementsUntil
  refine (reads_nextIsKind calm _).bind ?_
  rw [decide_eq_false other]
  exact first.bind others

end Reader
end Script
end PolicyStudio
