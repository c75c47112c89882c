import PolicyStudio.Script.Show
import PolicyStudio.Script.Token
import PolicyStudio.Text.Quoted
import PolicyStudio.Text.Word

/-!
# Registries

A registry says which names a program can see and what they stand for.  It keeps
the order in which the names were registered, and it never changes: names are
checked when it is built, one after the other, and the first one that cannot be
used decides.

Programs could not write a name that is a keyword, and names that begin with an
underscore belong to the interpreter, so neither can be registered.

The policy language is a registry: the names under which programs know it, in the
order in which they are listed.
-/

namespace PolicyStudio

/-!
## The policy language as a vocabulary

The names that programs know, and the further names under which the parts of the
language are known to those who build on it.
-/

namespace Script

/-- The names that programs know, each with what it stands for. -/
def vocabulary : List (String × Value) :=
  [("createPolicy", .policyFunction .createPolicy), ("column", .policyFunction .column),
    ("auth", .object Machine.authAddress), ("session", .object Machine.sessionAddress),
    ("currentUser", .policyFunction .currentUser), ("from_", .policyFunction .fromTable),
    ("hasRole", .policyFunction .hasRole), ("alwaysTrue", .policyFunction .alwaysTrue),
    ("call", .policyFunction .call), ("policies", .object Machine.templatesAddress)]

/-- The classes of the policy language. -/
def vocabularyClasses : List (String × Value) :=
  ([.auth, .column, .condition, .contextValue, .definition] : List PolicyClass).map classEntry ++
    [(ErrorKind.name .policyDefinition, .classValue (.error .policyDefinition) rfl)] ++
    ([.templates, .session, .subquery, .expression, .query] : List PolicyClass).map classEntry
where
  /-- A class under its name. -/
  classEntry (c : PolicyClass) : String × Value :=
    (c.name, .classValue (.policy c) rfl)

/-- The functions on which the policy language is built. -/
def vocabularyTools : List (String × Value) :=
  ([.sqlString, .sqlTruth, .renderValue, .quoteIdentifier, .quoteName, .checkQualifiedName] :
    List PolicyFunction).map fun f => (f.name, .policyFunction f)

end Script

/-! ## Names and faults -/

/-- What is offered as a name: a text, or something else, known by how it is
shown. -/
inductive OfferedName where
  | text (name : String)
  | other (shown : String)
deriving Repr, DecidableEq

/-- Why a registry cannot be built. -/
inductive RegistryFault where
  | notIdentifier (shown : String)
  | keyword (name : String)
  | hidden (name : String)
  | repeated (name : String)
deriving Repr, DecidableEq

/-- The wording of a fault. -/
def RegistryFault.message : RegistryFault → String
  | .notIdentifier shown => "Binding name must be a Python identifier, got " ++ shown
  | .keyword name => "Binding name " ++ Text.quoted name ++ " is a Python keyword"
  | .hidden name => "Binding name " ++ Text.quoted name ++ " must not start with '_'"
  | .repeated name => "Duplicate binding name " ++ Text.quoted name

/-- Why a text cannot be registered as a name. -/
def bindingNameFault? (name : String) : Option RegistryFault :=
  if !Text.isWord name.toList then some (.notIdentifier (Text.quoted name))
  else if Script.keywords.contains name then some (.keyword name)
  else if name.startsWith "_" then some (.hidden name)
  else none

/-- Names with their values, in the order in which they were registered. -/
structure Registry where
  entries : List (String × Script.Value)
  usable : ∀ entry ∈ entries, bindingNameFault? entry.1 = none
  distinct : (entries.map Prod.fst).Nodup

namespace Registry

/-- The registry without names. -/
def empty : Registry where
  entries := []
  usable := by simp
  distinct := by simp

/-- The names, in order. -/
def names (registry : Registry) : List String :=
  registry.entries.map Prod.fst

/-- The values, in the order of their names. -/
def values (registry : Registry) : List Script.Value :=
  registry.entries.map Prod.snd

/-- How many names there are. -/
def size (registry : Registry) : Nat :=
  registry.entries.length

/-- The value of a name. -/
def get? (registry : Registry) (name : String) : Option Script.Value :=
  registry.entries.lookup name

/-- The name is registered. -/
def contains (registry : Registry) (name : String) : Bool :=
  registry.names.contains name

/-- Register a text as a name for a value, behind all others. -/
def register (registry : Registry) (name : String) (value : Script.Value) :
    Except RegistryFault Registry :=
  match unusable : bindingNameFault? name with
  | some fault => .error fault
  | none =>
    if known : name ∈ registry.names then .error (.repeated name)
    else .ok {
      entries := registry.entries ++ [(name, value)]
      usable := by
        intro entry h
        rcases List.mem_append.mp h with h | h
        · exact registry.usable entry h
        · rw [List.mem_singleton.mp h]
          exact unusable
      distinct := by
        rw [List.map_append]
        refine List.nodup_append.mpr ⟨registry.distinct, by simp, ?_⟩
        intro a ha b hb same
        simp only [List.map_cons, List.map_nil, List.mem_singleton] at hb
        exact known (hb ▸ same ▸ ha) }

/-- Register what is offered as a name. -/
def offer (registry : Registry) (name : OfferedName) (value : Script.Value) :
    Except RegistryFault Registry :=
  match name with
  | .text name => registry.register name value
  | .other shown => .error (.notIdentifier shown)

/-- The registry of names with their values. -/
def ofPairs (pairs : List (OfferedName × Script.Value)) : Except RegistryFault Registry :=
  pairs.foldlM (fun registry pair => registry.offer pair.1 pair.2) empty

/-- How a registry is shown. -/
def shown (registry : Registry) : String :=
  "BindingRegistry([" ++ ", ".intercalate (registry.names.map Text.quoted) ++ "])"

/-- The registry of the policy language. -/
def standard : Registry where
  entries := Script.vocabulary
  usable := by decide +kernel
  distinct := by decide +kernel

end Registry

end PolicyStudio
