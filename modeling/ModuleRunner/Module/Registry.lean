import ModuleRunner.Script.Heap
import ModuleRunner.Text.Quoted

/-!
# The registry

What a session knows of its modules.  A record is a module that is loaded or being loaded, under the
id it was requested by.  Next to the records stand the values and the providers that the host
registered and that no request has reached yet.

A value becomes a record when it is first asked for.  A provider leaves the registry while it runs;
it comes back if it fails, unless a newer one took its place.

* `Record`, `Registry` — the data.
* `Registry.find`, `Registry.create`, `Registry.insertNative`, `Registry.remove` — records.
* `Registry.takeProvider`, `Registry.restoreProvider` — providers, with what bringing one back does.
-/

namespace ModuleRunner.Module

open Script (Heap ObjectRef Value)

/-- A place that a module's source was found at. -/
structure Resource where
  /-- The id that the place itself has. -/
  id : String
  /-- The place, for readers. -/
  origin : String
  /-- The source text. -/
  content : String
deriving DecidableEq, Repr

/-- A module that is loaded or being loaded. -/
structure Record where
  /-- The module's own id. -/
  id : String
  /-- Where the module came from. -/
  origin : String
  /-- The module object, whose `exports` other modules see. -/
  module : ObjectRef
deriving DecidableEq, Repr, Inhabited

/-- A native provider, by number. -/
structure ProviderRef where
  /-- The number. -/
  index : Nat
deriving DecidableEq, Repr, Inhabited

/-- What a session knows of its modules. -/
structure Registry where
  /-- The records, by requested id. -/
  records : Table Record
  /-- Values of the host that no request has reached. -/
  values : Table Value
  /-- Providers of the host that no request has reached, or that failed. -/
  providers : Table ProviderRef

namespace Registry

/-- The registry that knows nothing. -/
def empty : Registry := ⟨[], [], []⟩

instance : Inhabited Registry := ⟨empty⟩

/-- A new record with a module object that holds its id, its origin and its exports. -/
def newRecord (heap : Heap) (id origin : String) (exports : Value) : Record × Heap :=
  let (module, heap) := heap.newObject
    ⟨false, [("id", .text id), ("origin", .text origin), ("exports", exports)]⟩
  (⟨id, origin, module⟩, heap)

/-- The record under an id.  A value of the host becomes a record now, and stays one. -/
def find (registry : Registry) (heap : Heap) (id : String) : Option Record × Registry × Heap :=
  match registry.records.get? id with
  | some record => (some record, registry, heap)
  | none =>
    match registry.values.get? id with
    | none => (none, registry, heap)
    | some value =>
      let (record, heap) := newRecord heap id ("host:" ++ id) value
      (some record,
        { registry with
          values := registry.values.erase id
          records := registry.records.put id record },
        heap)

/-- Puts a record for a resource under the id it was requested by, with empty exports. -/
def create (registry : Registry) (heap : Heap) (key : String) (id origin : String) :
    Record × Registry × Heap :=
  let (exports, heap) := heap.newObject ⟨false, []⟩
  let (record, heap) := newRecord heap id origin (.object exports)
  (record, { registry with records := registry.records.put key record }, heap)

/-- Puts a record for what a provider made. -/
def insertNative (registry : Registry) (heap : Heap) (id : String) (value : Value) :
    Record × Registry × Heap :=
  let (record, heap) := newRecord heap id ("native:" ++ id) value
  (record, { registry with records := registry.records.put id record }, heap)

/-- Removes the record under an id. -/
def remove (registry : Registry) (id : String) : Registry :=
  { registry with records := registry.records.erase id }

/-- Takes the provider of an id out of the registry. -/
def takeProvider (registry : Registry) (id : String) : Option ProviderRef × Registry :=
  (registry.providers.get? id, { registry with providers := registry.providers.erase id })

/-- Brings a provider back, unless another one has taken its place. -/
def restoreProvider (registry : Registry) (id : String) (provider : ProviderRef) : Registry :=
  if registry.providers.contains id then registry
  else { registry with providers := registry.providers.put id provider }

/-- Registers a value of the host. -/
def register (registry : Registry) (id : String) (value : Value) : Registry :=
  { registry with values := registry.values.put id value }

/-- Registers a provider of the host. -/
def registerProvider (registry : Registry) (id : String) (provider : ProviderRef) : Registry :=
  { registry with providers := registry.providers.put id provider }

/-- The ids of the records, in order. -/
def ids (registry : Registry) : List String :=
  registry.records.keys.mergeSort fun a b => !(b < a)

/-- A summary for readers: the ids of the records, and how many values and providers wait. -/
def summary (registry : Registry) : String :=
  "Registry \x7b records: " ++ Text.quotedList registry.ids ++ ", preregistered: "
    ++ toString registry.values.length ++ ", providers: " ++ toString registry.providers.length
    ++ " \x7d"

/-- Bringing a provider back touches no record. -/
@[simp] theorem records_restoreProvider (registry : Registry) (id : String)
    (provider : ProviderRef) : (registry.restoreProvider id provider).records = registry.records := by
  unfold restoreProvider
  split <;> rfl

/-- Bringing a provider back touches no value. -/
@[simp] theorem values_restoreProvider (registry : Registry) (id : String)
    (provider : ProviderRef) : (registry.restoreProvider id provider).values = registry.values := by
  unfold restoreProvider
  split <;> rfl

/-- A provider that is brought back waits, or a newer one does. -/
theorem get?_restoreProvider_self (registry : Registry) (id : String) (provider : ProviderRef) :
    ∃ found, (registry.restoreProvider id provider).providers.get? id = some found := by
  unfold restoreProvider
  split
  · next h => exact Option.isSome_iff_exists.mp h
  · exact ⟨provider, Table.get?_put_self _ _ _⟩

/-- Bringing a provider back leaves the providers of other ids. -/
theorem get?_restoreProvider_of_ne (registry : Registry) {id other : String}
    (provider : ProviderRef) (h : other ≠ id) :
    (registry.restoreProvider id provider).providers.get? other
      = registry.providers.get? other := by
  unfold restoreProvider
  split
  · rfl
  · exact Table.get?_put_of_ne provider h _

end Registry

/-- The exports of a module, as they are now. -/
def Record.exports (record : Record) (heap : Heap) : Value :=
  ((heap.objectAt record.module).properties.get? "exports").getD .undefined

end ModuleRunner.Module
