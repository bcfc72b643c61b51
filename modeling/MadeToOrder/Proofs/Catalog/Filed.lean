import MadeToOrder.Proofs.Catalog.Assembled
import MadeToOrder.Proofs.Catalog.Reading

/-!
# How options are filed

Assembling a snapshot puts every option under its own key, and a later record
with the same key replaces the earlier one. So the options of a collection are
told apart by their keys, whatever a document holds. Inactive records are left out,
so every option of a snapshot is active.
-/

set_option autoImplicit false

namespace MadeToOrder

universe u v

/-- Every value stands under its own name, and no two share one. -/
structure Keyed.FiledBy {α : Type u} (name : α → String) (m : Keyed α) : Prop where
  distinct : (Keyed.keys m).Nodup
  own : ∀ e ∈ m, name e.2 = e.1

namespace Keyed

variable {α : Type u} {β : Type v} {name : α → String} {m : Keyed α}

instance (name : α → String) (m : Keyed α) : Decidable (FiledBy name m) :=
  decidable_of_iff ((keys m).Nodup ∧ ∀ e ∈ m, name e.2 = e.1)
    ⟨fun h => ⟨h.1, h.2⟩, fun h => ⟨h.1, h.2⟩⟩

theorem FiledBy.nil : FiledBy name [] := ⟨List.nodup_nil, by simp⟩

theorem FiledBy.put (h : FiledBy name m) (value : α) :
    FiledBy name (Keyed.put m (name value) value) := by
  refine ⟨nodup_keys_put h.distinct _ _, ?_⟩
  intro e member
  rcases mem_put member with earlier | rfl
  · exact h.own e earlier
  · rfl

theorem FiledBy.fileAll (h : FiledBy name m) (items : List α) :
    FiledBy name (Keyed.fileAll name m items) := by
  induction items generalizing m with
  | nil => exact h
  | cons item rest ih => exact ih (h.put item)

theorem FiledBy.mapValues {other : β → String} {f : α → β} (h : FiledBy name m)
    (same : ∀ value, other (f value) = name value) : FiledBy other (Keyed.mapValues f m) := by
  refine ⟨?_, ?_⟩
  · have keys_eq : keys (Keyed.mapValues f m) = keys m := by
      simp [keys, Keyed.mapValues, Function.comp_def]
    rw [keys_eq]
    exact h.distinct
  · intro e member
    obtain ⟨e', known, rfl⟩ := List.mem_map.mp member
    exact (same e'.2).trans (h.own e' known)

end Keyed

def Snapshot.Filed (s : Snapshot) : Prop := ∀ e ∈ s.options, Keyed.FiledBy CatalogOption.key e.2

instance (s : Snapshot) : Decidable s.Filed :=
  inferInstanceAs (Decidable (∀ e ∈ s.options, Keyed.FiledBy CatalogOption.key e.2))

theorem Snapshot.Filed.optionsIn {s : Snapshot} (h : s.Filed) (collection : String) :
    Keyed.FiledBy CatalogOption.key (s.optionsIn collection) := by
  unfold Snapshot.optionsIn
  cases found : Keyed.get? s.options collection with
  | none => exact Keyed.FiledBy.nil
  | some options => exact h (collection, options) (Keyed.mem_of_get? found)

theorem Snapshot.Filed.entry {s : Snapshot} (h : s.Filed) {collection : String}
    {o : CatalogOption} (listed : o ∈ Keyed.values (s.optionsIn collection)) :
    (o.key, o) ∈ s.optionsIn collection := by
  obtain ⟨⟨key, o'⟩, member, rfl⟩ := List.mem_map.mp listed
  have own : o'.key = key := (h.optionsIn collection).own (key, o') member
  rw [own]
  exact member

theorem Snapshot.Filed.eq_of_key_eq {s : Snapshot} (h : s.Filed) {collection : String} {a b : CatalogOption}
    (first : a ∈ Keyed.values (s.optionsIn collection))
    (second : b ∈ Keyed.values (s.optionsIn collection)) (same : a.key = b.key) : a = b := by
  have distinct := (h.optionsIn collection).distinct
  have here := Keyed.get?_of_mem distinct (h.entry first)
  have there := Keyed.get?_of_mem distinct (h.entry second)
  rw [same, there] at here
  exact (Option.some.inj here).symm

/-- Every option of the snapshot is active. -/
def Snapshot.Active (s : Snapshot) : Prop :=
  ∀ e ∈ s.options, ∀ o ∈ Keyed.values e.2, o.active.truthy = true

theorem Snapshot.exists_of_mem_optionsIn {s : Snapshot} {collection : String} {o : CatalogOption}
    (listed : o ∈ Keyed.values (s.optionsIn collection)) :
    ∃ options, (collection, options) ∈ s.options ∧ o ∈ Keyed.values options := by
  unfold Snapshot.optionsIn at listed
  cases filed : Keyed.get? s.options collection with
  | none =>
    rw [filed] at listed
    cases listed
  | some options =>
    rw [filed] at listed
    exact ⟨options, Keyed.mem_of_get? filed, listed⟩

theorem Snapshot.mem_of_option? {s : Snapshot} {collection key : String} {o : CatalogOption}
    (found : s.option? collection key = some o) : o ∈ Keyed.values (s.optionsIn collection) :=
  List.mem_map_of_mem (Keyed.mem_of_get? found)

theorem Snapshot.Active.option {s : Snapshot} (h : s.Active) {collection key : String}
    {o : CatalogOption} (found : s.option? collection key = some o) :
    o.active.truthy = true := by
  obtain ⟨options, filed, listed⟩ := exists_of_mem_optionsIn (mem_of_option? found)
  exact h (collection, options) filed o listed

theorem Assembly.readLines_filedBy {table : FieldTable} {records : List Value}
    {lines : Keyed ProductLine} (read : readLines table [] records = .ok lines) :
    Keyed.FiledBy (fun l => l.id.plain) lines := by
  obtain ⟨found, _, rfl⟩ := readLines_eq_ok read
  exact Keyed.FiledBy.nil.fileAll _

theorem Assembly.readOptions_filedBy {collection : String} {records : List Value}
    {options : Keyed CatalogOption} (read : readOptions collection [] records = .ok options) :
    Keyed.FiledBy CatalogOption.key options := by
  obtain ⟨found, _, rfl⟩ := readOptions_eq_ok read
  exact Keyed.FiledBy.nil.fileAll _

namespace Answering

variable {m : Type → Type} [Monad m] [MonadExceptOf Fault m]

/-- Every collection of a source is read from nothing. -/
theorem mem_fetchOptions (r : Answering m) {source : Source m} {specs : List FieldSpec}
    {collections : Keyed (Keyed CatalogOption)}
    (fetched : r.answers (Assembly.fetchOptions source specs) collections) :
    ∀ e ∈ collections, ∃ records, r.answers (source.options e.1) records ∧
      Assembly.readOptions e.1 [] records = .ok e.2 := by
  induction specs generalizing collections with
  | nil =>
    obtain rfl := r.pure fetched
    simp
  | cons spec rest ih =>
    unfold Assembly.fetchOptions at fetched
    split at fetched
    · exact ih fetched
    · obtain ⟨records, asked, fetched⟩ := r.bind fetched
      obtain ⟨options, read, fetched⟩ := r.bind fetched
      obtain ⟨others, later, fetched⟩ := r.bind fetched
      obtain rfl := r.pure fetched
      exact List.forall_mem_cons.mpr ⟨⟨records, asked, r.ofExcept read⟩, ih later⟩

/-- The options of a snapshot are read from records, but those of the lines are its lines. -/
theorem Assembled.mem_options {r : Answering m} {source : Source m} {table : FieldTable}
    {s : Snapshot} (h : r.Assembled source table s) :
    ∀ e ∈ s.options, (∃ records, r.answers (source.options e.1) records ∧
        Assembly.readOptions e.1 [] records = .ok e.2) ∨
      e.1 = lineCollection ∧ e.2 = Keyed.mapValues Assembly.lineOption s.lines := by
  obtain ⟨collections, fetched, filed⟩ := h.options
  have own := r.mem_fetchOptions fetched
  rw [filed]
  intro e member
  split at member
  · rcases Keyed.mem_put member with fetched | rfl
    · exact Or.inl (own e fetched)
    · exact Or.inr ⟨rfl, rfl⟩
  · exact Or.inl (own e member)

/-- Whatever rows a source delivers, the options of its snapshot are filed. -/
theorem Assembled.filed {r : Answering m} {source : Source m} {table : FieldTable}
    {s : Snapshot} (h : r.Assembled source table s) : s.Filed := by
  intro e member
  rcases h.mem_options e member with ⟨records, _, read⟩ | ⟨_, same⟩
  · exact Assembly.readOptions_filedBy read
  · obtain ⟨records, _, read⟩ := h.lines
    rw [same]
    exact (Assembly.readLines_filedBy read).mapValues (fun _ => rfl)

/-- Whatever rows a source delivers, the options of its snapshot are active. -/
theorem Assembled.active {r : Answering m} {source : Source m} {table : FieldTable}
    {s : Snapshot} (h : r.Assembled source table s) : s.Active := by
  intro e member o listed
  obtain ⟨entry, found, rfl⟩ := List.mem_map.mp listed
  rcases h.mem_options e member with ⟨records, _, read⟩ | ⟨_, same⟩
  · exact (Assembly.mem_readOptions read found).1
  · rw [same] at found
    obtain ⟨line, _, rfl⟩ := List.mem_map.mp found
    rfl

end Answering

/-- A snapshot that some source delivers, at once or as the task of a client. -/
inductive Snapshot.Delivered (s : Snapshot) : Prop
  | direct (source : Source (Except Fault)) (table : FieldTable) (asOf : String)
      (h : source.snapshot table asOf = .ok s)
  | remote (r : Remote) (table : FieldTable) (asOf : String) (before after : Client)
      (h : (r.snapshot table asOf).run before = (.ok s, after))

theorem Snapshot.Delivered.exists_assembled {s : Snapshot} (h : s.Delivered) :
    ∃ (m : Type → Type) (_ : Monad m) (_ : MonadExceptOf Fault m) (r : Answering m)
      (source : Source m) (table : FieldTable), r.Assembled source table s := by
  cases h with
  | direct source table asOf h =>
    exact ⟨_, _, _, .direct, source, table, Answering.direct.assembled h⟩
  | remote r table asOf before after h =>
    exact ⟨_, _, _, .task, r.source, table, Answering.task.assembled ⟨before, after, h⟩⟩

theorem Snapshot.Delivered.filed {s : Snapshot} (h : s.Delivered) : s.Filed := by
  obtain ⟨_, _, _, _, _, _, assembled⟩ := h.exists_assembled
  exact assembled.filed

theorem Snapshot.Delivered.active {s : Snapshot} (h : s.Delivered) : s.Active := by
  obtain ⟨_, _, _, _, _, _, assembled⟩ := h.exists_assembled
  exact assembled.active

end MadeToOrder
