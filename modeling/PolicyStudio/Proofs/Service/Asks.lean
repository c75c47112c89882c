import PolicyStudio.Proofs.Outcome
import PolicyStudio.Service.Playground

/-!
# What requests ask

A request with a valid place and a valid body asks one of seven things of the sessions.
`Request.ask?` reads it off, in the same way for every store.  So whether a request is
valid does not depend on the sessions, and a request that is not valid never reaches them.

The forms of requests bound the programs that they bring.
-/

namespace PolicyStudio
namespace Service

open Session Form

/-! ## Forms -/

/-- A field that has to be filled in is read from what is filled in. -/
theorem exists_of_required {α : Type} {entries : Entries} {name : String} {read : Reader α} {value : α}
    (accepted : entries.required name read = .ok value) : ∃ given, read given = .ok value := by
  unfold Entries.required Entries.readAs at accepted
  split at accepted
  · next given _ =>
    cases result : read given with
    | ok found =>
      rw [result] at accepted
      cases accepted
      exact ⟨given, result⟩
    | error faults =>
      rw [result] at accepted
      cases accepted
  · cases accepted

/-- Another field is read from what is filled in, or nothing is. -/
theorem exists_of_standing {α : Type} {entries : Entries} {name : String} {usual value : α}
    {read : Reader α} (accepted : entries.standing name usual read = .ok value) :
    value = usual ∨ ∃ given, read given = .ok value := by
  unfold Entries.standing at accepted
  split at accepted
  · next given found =>
    have required : entries.required name read = .ok value := by
      rw [Entries.required, found]
      exact accepted
    exact Or.inr (exists_of_required required)
  · cases accepted
    exact Or.inl rfl

/-- What may be left out is read as such if it is there. -/
theorem eq_of_optional {α : Type} {read : Reader α} {given : Given} {value : α}
    (accepted : Reader.optional read given = .ok (some value)) : read given = .ok value := by
  have other : given ≠ .null := by
    rintro rfl
    cases accepted
  have mapped : Reader.optional read given = (read given).map some := by
    cases given with
    | null => exact absurd rfl other
    | _ => rfl
  rw [mapped] at accepted
  cases result : read given with
  | ok found =>
    rw [result] at accepted
    cases accepted
    rfl
  | error faults =>
    rw [result] at accepted
    cases accepted

/-- A form with two fields is filled in if both are. -/
theorem exists_of_two {α β γ : Type} {make : α → β → γ} {first : Checked α} {second : Checked β}
    {value : γ} (accepted : make <$> first <*> second = .ok value) :
    ∃ a b, first = .ok a ∧ second = .ok b ∧ value = make a b := by
  cases first with
  | faulty found => cases second <;> cases accepted
  | ok a =>
    cases second with
    | faulty found => cases accepted
    | ok b =>
      cases accepted
      exact ⟨a, b, rfl, rfl, rfl⟩

/-- A program that is read is not too long. -/
theorem length_of_sourceReader {given : Given} {source : String}
    (accepted : sourceReader given = .ok source) : source.length ≤ longestSource := by
  rcases Outcome.bind_eq_ok.mp accepted with ⟨text, _, accepted⟩
  dsimp only at accepted
  split at accepted
  · cases accepted
  · split at accepted
    · cases accepted
    · next short =>
      rw [← Outcome.eq_of_pure accepted]
      exact Nat.le_of_not_lt short

theorem length_of_sourceForm {entries : Entries} {source : String}
    (accepted : sourceForm entries = .ok source) : source.length ≤ longestSource := by
  rcases exists_of_required accepted with ⟨given, read⟩
  exact length_of_sourceReader read

theorem length_of_beginningForm {entries : Entries} {beginning : Beginning}
    (accepted : beginningForm entries = .ok beginning) :
    ∀ source ∈ beginning.source, source.length ≤ longestSource := by
  rcases exists_of_two accepted with ⟨program, name, filled, -, rfl⟩
  rintro source rfl
  rcases exists_of_standing filled with impossible | ⟨given, read⟩
  · cases impossible
  · exact length_of_sourceReader (eq_of_optional read)

/-- Short lines make a text that is not too long. -/
theorem length_lines_le {content : List String} (short : ∀ line ∈ content, line.length < 100) :
    (Catalog.lines content).length ≤ 100 * content.length := by
  unfold Catalog.lines
  induction content with
  | nil => exact Nat.le_refl _
  | cons line rest inductionHypothesis =>
    rcases List.forall_mem_cons.mp short with ⟨first, others⟩
    cases rest with
    | nil =>
      rw [String.intercalate_singleton]
      exact Nat.le_of_lt first
    | cons next rest =>
      have others := inductionHypothesis others
      rw [String.intercalate_cons_cons, String.length_append, String.length_append,
        show "\n".length = 1 from rfl, List.length_cons]
      omega

/-- The length of a text that is spelled out. -/
theorem length_lt_of_spelled {text : String} {characters : List Char} {bound : Nat}
    (spelled : text = String.ofList characters) (short : characters.length < bound) :
    text.length < bound := by
  rw [spelled, String.length_ofList]
  exact short

open Catalog in
/-- The programs of the catalog are no exception. -/
theorem length_code_le : ∀ found ∈ examples, found.code.length ≤ longestSource := by
  simp only [examples, List.forall_mem_cons, userOwnership, multiTenant, ownerOrMember, complexOr,
    withIndexes, insertValidation, updateWithCheck, template, deletePolicy, patternMatching,
    nullChecks, publicAccessTemplate, roleBasedAccess, helperMethods]
  refine ⟨?_, ?_, ?_, ?_, ?_, ?_, ?_, ?_, ?_, ?_, ?_, ?_, ?_, ?_, nofun⟩ <;>
    refine Nat.le_trans (length_lines_le ?_) (by decide) <;>
    simp only [List.forall_mem_cons] <;> and_intros
  -- Every line, and the end of every example.
  all_goals first
    | exact length_lt_of_spelled rfl (by decide)
    | exact nofun

/-- An example that is found is one of the catalog. -/
theorem length_of_find? {name : String} {found : Example} (listed : Catalog.find? name = some found) :
    found.code.length ≤ longestSource :=
  length_code_le found (List.mem_of_find?_eq_some listed)

/-! ## Asks -/

/-- What a valid request asks of the sessions. -/
inductive Ask where
  | create (beginning : Option Beginning)
  | read (id : Nat)
  | setSource (id : Nat) (source : String)
  | loadExample (id : Nat) (name : String)
  | execute (id : Nat)
  | acknowledge (id : Nat)
  | delete (id : Nat)
deriving Repr, DecidableEq

/-- What a request asks at an endpoint, if its place and its body are valid. -/
def Endpoint.ask? (body : Body) : Endpoint → Option Ask
  | .create => (body.readOptional beginningForm).toOption.map .create
  | .session id => (Identifier.read id).toOption.map .read
  | .setSource id => (body.readWith id sourceForm).toOption.map fun given => .setSource given.1 given.2
  | .loadExample id =>
    (body.readWith id exampleForm).toOption.map fun given => .loadExample given.1 given.2
  | .execute id => (Identifier.read id).toOption.map .execute
  | .acknowledge id => (Identifier.read id).toOption.map .acknowledge
  | .delete id => (Identifier.read id).toOption.map .delete
  | _ => none

/-- What a request asks of the sessions, if it does and is valid. -/
def Request.ask? (request : Request) : Option Ask :=
  (Endpoint.find request.method request.place).toOption.bind (·.ask? request.body)

namespace Ask

/-- The identifier that is named. -/
def id? : Ask → Option Nat
  | .create _ => none
  | .read id | .setSource id _ | .loadExample id _ | .execute id | .acknowledge id | .delete id => some id

/-- The name of the example that is needed.  A new session with a program of its own needs
none, and an empty name counts as none. -/
def exampleName? : Ask → Option String
  | .create (some ⟨none, some name⟩) => if name = "" then none else some name
  | .loadExample _ name => some name
  | _ => none

/-- The program that is brought. -/
def source? : Ask → Option String
  | .create beginning => beginning.bind Beginning.source
  | .setSource _ source => some source
  | _ => none

/-- Do what is asked. -/
def handle {τ : Type} [TimeScale τ] (setting : Setting τ) : Ask → Handler τ Answer
  | .create beginning => Handler.create setting beginning
  | .read id => do Handler.shown setting id ((Identifier.session? id).bind (← get).get?)
  | .setSource id source => Handler.changed setting id fun state => .ok (state.edit source)
  | .loadExample id name => do
    let found ← Handler.exampleNamed name
    Handler.changed setting id fun state => .ok (state.load found)
  | .execute id => Handler.execute setting id
  | .acknowledge id => Handler.changed setting id (·.acknowledge setting.now setting.copyMemory)
  | .delete id => Handler.delete id

end Ask

/-! ## Bodies -/

theorem eq_ok_of_toOption {ε α : Type} {read : Except ε α} {value : α}
    (given : read.toOption = some value) : read = .ok value := by
  cases read with
  | error problems => cases given
  | ok found =>
    cases given
    rfl

/-- A body that is read holds a form. -/
theorem exists_of_read {α : Type} {form : FormReader α} {body : Body} {value : α}
    (accepted : body.read form = .ok value) : ∃ entries, form entries = .ok value := by
  unfold Body.read at accepted
  split at accepted
  · cases accepted
  · next members =>
    split at accepted
    · next found filled =>
      cases accepted
      exact ⟨_, filled⟩
    · cases accepted
  · cases accepted
  · cases accepted
  · cases accepted

theorem exists_of_readOptional {α : Type} {form : FormReader α} {body : Body} {value : α}
    (accepted : body.readOptional form = .ok (some value)) : ∃ entries, form entries = .ok value := by
  unfold Body.readOptional at accepted
  split at accepted
  · cases accepted
  · cases accepted
  · cases result : body.read form with
    | ok found =>
      rw [result] at accepted
      cases accepted
      exact exists_of_read result
    | error problems =>
      rw [result] at accepted
      cases accepted

/-- An identifier and a form are read if both are. -/
theorem read_of_readWith {α : Type} {id : String} {form : FormReader α} {body : Body}
    {given : Nat × α} (accepted : body.readWith id form = .ok given) :
    ∃ entries, form entries = .ok given.2 := by
  unfold Body.readWith at accepted
  split at accepted
  · cases accepted
  · next value _ result =>
    cases accepted
    exact exists_of_read result
  · cases accepted
  · cases accepted
  · cases accepted

/-- A valid request brings no program that is too long. -/
theorem length_of_ask? {endpoint : Endpoint} {body : Body} {ask : Ask}
    (asked : endpoint.ask? body = some ask) :
    ∀ source ∈ ask.source?, source.length ≤ longestSource := by
  intro source brought
  cases endpoint with
  | create =>
    rcases Option.map_eq_some_iff.mp asked with ⟨beginning, read, rfl⟩
    rcases Option.bind_eq_some_iff.mp brought with ⟨given, rfl, own⟩
    rcases exists_of_readOptional (eq_ok_of_toOption read) with ⟨entries, filled⟩
    exact length_of_beginningForm filled source own
  | setSource id =>
    rcases Option.map_eq_some_iff.mp asked with ⟨given, read, rfl⟩
    rcases read_of_readWith (eq_ok_of_toOption read) with ⟨entries, filled⟩
    cases brought
    exact length_of_sourceForm filled
  | session id | loadExample id | execute id | acknowledge id | delete id =>
    rcases Option.map_eq_some_iff.mp asked with ⟨given, read, rfl⟩
    cases brought
  | liveness | readiness | run | examples | «example» name | editor => cases asked

variable {τ : Type} {store : Store τ}

/-- What was read is handed on. -/
theorem ofRead_bind_of_some {α β : Type} {read : Except Problems α} {value : α}
    (next : α → Handler τ β) (given : read.toOption = some value) :
    (Handler.ofRead read >>= next) store = next value store := by
  rw [eq_ok_of_toOption given]
  rfl

/-- What cannot be read is not handed on. -/
theorem ofRead_bind_of_none {α β : Type} {read : Except Problems α} (next : α → Handler τ β)
    (missing : read.toOption = none) :
    ∃ problems, (Handler.ofRead read >>= next) store = .error (.invalid problems) store := by
  cases read with
  | ok value => cases missing
  | error problems => exact ⟨problems, rfl⟩

theorem toOption_identifier (id : String) :
    ((Identifier.read id).mapError Problems.ofIdentifier).toOption = (Identifier.read id).toOption := by
  cases Identifier.read id with
  | ok found => rfl
  | error fault => rfl

variable {setting : Setting τ} {body : Body} {endpoint : Endpoint}

/-- A valid request is answered by what it asks. -/
theorem answerAt_of_some [TimeScale τ] {ask : Ask} (asked : endpoint.ask? body = some ask) :
    Handler.answerAt setting body endpoint store = ask.handle setting store := by
  cases endpoint with
  | create =>
    rcases Option.map_eq_some_iff.mp asked with ⟨beginning, read, rfl⟩
    exact ofRead_bind_of_some _ read
  | setSource id | loadExample id =>
    rcases Option.map_eq_some_iff.mp asked with ⟨given, read, rfl⟩
    exact ofRead_bind_of_some _ read
  | session id | execute id | acknowledge id | delete id =>
    rcases Option.map_eq_some_iff.mp asked with ⟨given, read, rfl⟩
    exact ofRead_bind_of_some _ ((toOption_identifier id).trans read)
  | liveness | readiness | run | examples | «example» name | editor => cases asked

/-! ## Other requests -/

/-- Programs are run in a way that does not reach the store, and all that is told of them is
how they end. -/
def Setting.sandboxed (setting : Setting τ) (outcome : String → Except String ExecutionResult) :
    Setting τ :=
  { setting with run := fun source store => (outcome source, store) }

/-- An answer that is not about a session, and leaves the sessions as they are. -/
inductive Aside (store : Store τ) : EStateM.Result Refusal (Store τ) Answer → Prop
  | refused (refusal : Refusal) : Aside store (.error refusal store)
  | answered (answer : Answer) (status : answer.status ≠ 201)
    (silent : answer.body.member? "copied" = none) : Aside store (.ok answer store)

theorem aside_probe (failures : List String) (message : String) :
    Aside store (.ok (probeAnswer failures message) store) := by
  unfold probeAnswer
  split
  · exact .answered _ nofun rfl
  · exact .answered _ nofun rfl

variable {outcome : String → Except String ExecutionResult}

theorem run_sandboxed (source : String) :
    Handler.run (setting.sandboxed outcome) source store = (match outcome source with
      | .ok result => pure ⟨200, result.json⟩
      | .error message => throw (.internal message) : Handler τ Answer) store :=
  rfl

/-- A program that is run without a session leaves the sessions as they are. -/
theorem aside_run (source : String) :
    Aside store (Handler.run (setting.sandboxed outcome) source store) := by
  rw [run_sandboxed]
  cases outcome source with
  | ok result => cases result <;> exact .answered _ nofun rfl
  | error message => exact .refused _

theorem aside_example (name : String) : Aside store ((match Catalog.find? name with
    | some found => pure ⟨200, found.json⟩
    | none => throw (.unknownExample none) : Handler τ Answer) store) := by
  cases Catalog.find? name with
  | some found => exact .answered _ nofun rfl
  | none => exact .refused _

/-- The endpoint is about sessions. -/
def Endpoint.isAboutSessions : Endpoint → Bool
  | .create | .session _ | .setSource _ | .loadExample _ | .execute _ | .acknowledge _
  | .delete _ => true
  | _ => false

/-- A request about sessions that is not valid. -/
theorem refused_of_none [TimeScale τ] (setting : Setting τ) (store : Store τ)
    (asked : endpoint.ask? body = none) (about : endpoint.isAboutSessions = true) : ∃ problems,
      Handler.answerAt setting body endpoint store = .error (.invalid problems) store := by
  cases endpoint with
  | create => exact ofRead_bind_of_none _ (Option.map_eq_none_iff.mp asked)
  | setSource id | loadExample id => exact ofRead_bind_of_none _ (Option.map_eq_none_iff.mp asked)
  | session id | execute id | acknowledge id | delete id =>
    exact ofRead_bind_of_none _ ((toOption_identifier id).trans (Option.map_eq_none_iff.mp asked))
  | liveness | readiness | run | examples | «example» name | editor => cases about

/-- A request that asks nothing of the sessions, or asks in a way that is not valid. -/
theorem answerAt_of_none [TimeScale τ] (setting : Setting τ)
    (outcome : String → Except String ExecutionResult) (store : Store τ)
    (asked : endpoint.ask? body = none) :
    Aside store (Handler.answerAt (setting.sandboxed outcome) body endpoint store) := by
  cases about : endpoint.isAboutSessions with
  | true =>
    rcases refused_of_none (setting.sandboxed outcome) store asked about with ⟨problems, refused⟩
    rw [refused]
    exact .refused _
  | false =>
    cases endpoint with
    | liveness => exact aside_probe _ _
    | readiness => exact aside_probe _ _
    | examples => exact .answered _ nofun rfl
    | editor => exact .answered _ nofun rfl
    | «example» name => exact aside_example name
    | run =>
      cases read : (body.read sourceForm).toOption with
      | none =>
        rcases ofRead_bind_of_none (Handler.run (setting.sandboxed outcome)) read with
          ⟨problems, refused⟩
        change Aside store ((Handler.ofRead (body.read sourceForm) >>= Handler.run _) store)
        rw [refused]
        exact .refused _
      | some source =>
        have given : Handler.answerAt (setting.sandboxed outcome) body .run store =
            Handler.run (setting.sandboxed outcome) source store := ofRead_bind_of_some _ read
        rw [given]
        exact aside_run source
    | create | session id | setSource id | loadExample id | execute id | acknowledge id
    | delete id => cases about

end Service
end PolicyStudio
