import MadeToOrder.Catalog.Remote

/-!
# What a snapshot is assembled from

A source is asked for each section once. The snapshot has what the rows of each
section are read as, and nothing else, whether the rows are there at once or a client
fetches them.
-/

set_option autoImplicit false

namespace MadeToOrder

/-- When a task answers with a value. A task in parts answers when its parts do. -/
structure Answering (m : Type → Type) [Monad m] [MonadExceptOf Fault m] where
  answers : {α : Type} → m α → α → Prop
  bind : ∀ {α β : Type} {x : m α} {f : α → m β} {b : β}, answers (x >>= f) b →
    ∃ a, answers x a ∧ answers (f a) b
  pure : ∀ {α : Type} {a b : α}, answers (pure a) b → b = a
  ofExcept : ∀ {α : Type} {x : Except Fault α} {a : α}, answers (MonadExcept.ofExcept x) a →
    x = .ok a

namespace Answering

theorem ofExcept_eq {α : Type} (x : Except Fault α) :
    (MonadExcept.ofExcept x : Except Fault α) = x := by
  cases x <;> rfl

def direct : Answering (Except Fault) where
  answers x a := x = .ok a
  bind h := by
    obtain ⟨a, first, rest⟩ := bind_eq_ok.mp h
    exact ⟨a, first, rest⟩
  pure h := (Except.ok.inj h).symm
  ofExcept {_ x _} h := (ofExcept_eq x).symm.trans h

def task : Answering Client.Task where
  answers x a := ∃ before after, x.run before = (.ok a, after)
  bind {_ _ x f b} h := by
    obtain ⟨before, after, h⟩ := h
    cases first : x.run before with
    | mk result between =>
      rw [ExceptT.run_bind] at h
      simp only [Bind.bind, StateT.bind, first] at h
      cases result with
      | error fault => cases h
      | ok a => exact ⟨a, ⟨before, between, first⟩, between, after, h⟩
  pure h := by
    obtain ⟨_, _, h⟩ := h
    cases h
    rfl
  ofExcept {_ x _} h := by
    obtain ⟨_, _, h⟩ := h
    cases x with
    | error fault => cases h
    | ok a =>
      cases h
      rfl

variable {m : Type → Type} [Monad m] [MonadExceptOf Fault m]

/-- Every part of a snapshot is what the rows of its section are read as. -/
structure Assembled (r : Answering m) (source : Source m) (table : FieldTable) (s : Snapshot) :
    Prop where
  table_eq : s.table = table
  lines : ∃ records, r.answers source.lines records ∧
    Assembly.readLines table [] records = .ok s.lines
  options : ∃ collections, r.answers (Assembly.fetchOptions source table.specs) collections ∧
    s.options = if table.hasCollection lineCollection then
      Keyed.put collections lineCollection (Keyed.mapValues Assembly.lineOption s.lines)
    else collections
  products : ∃ records : List Value, r.answers source.products records ∧
    records.mapM (Assembly.readProduct table) = .ok s.products
  overrides : ∃ records, r.answers source.overrides records ∧
    Assembly.readOverrides table (s.products.map Product.key) records =
      .ok (s.overrides, s.diagnostics)
  rules : ∃ records : List Value, r.answers source.rules records ∧
    records.mapM Rule.ofRecord = .ok s.rules
  codeFields : ∃ records, r.answers source.codeFields records ∧
    Assembly.readCodeFields table records = .ok s.codeFields

theorem assembled (r : Answering m) {source : Source m} {table : FieldTable} {asOf : String}
    {s : Snapshot} (h : r.answers (source.snapshot table asOf) s) :
    r.Assembled source table s := by
  obtain ⟨lineRecords, linesAsked, h⟩ := r.bind h
  obtain ⟨lines, linesRead, h⟩ := r.bind h
  obtain ⟨collections, fetched, h⟩ := r.bind h
  obtain ⟨productRecords, productsAsked, h⟩ := r.bind h
  obtain ⟨products, productsRead, h⟩ := r.bind h
  obtain ⟨overrideRecords, overridesAsked, h⟩ := r.bind h
  obtain ⟨⟨overrides, diagnostics⟩, overridesRead, h⟩ := r.bind h
  obtain ⟨ruleRecords, rulesAsked, h⟩ := r.bind h
  obtain ⟨rules, rulesRead, h⟩ := r.bind h
  obtain ⟨fieldRecords, fieldsAsked, h⟩ := r.bind h
  obtain ⟨codeFields, fieldsRead, h⟩ := r.bind h
  obtain rfl := r.pure h
  exact {
    table_eq := rfl
    lines := ⟨lineRecords, linesAsked, r.ofExcept linesRead⟩
    options := ⟨collections, fetched, rfl⟩
    products := ⟨productRecords, productsAsked, r.ofExcept productsRead⟩
    overrides := ⟨overrideRecords, overridesAsked, r.ofExcept overridesRead⟩
    rules := ⟨ruleRecords, rulesAsked, r.ofExcept rulesRead⟩
    codeFields := ⟨fieldRecords, fieldsAsked, r.ofExcept fieldsRead⟩ }

end Answering

end MadeToOrder
