import MadeToOrder.Proofs.Availability.Narrowing
import MadeToOrder.Proofs.Catalog.Defaults

/-!
# Options are available or disabled

Line defaults, matching, override rows and rule constraints each leave every option
of a collection either available or disabled, never both, and record what they did.
Options only come from those that a catalog has. Constraints take options away, and
once they have done so they find nothing more to take.
-/

set_option autoImplicit false

namespace MadeToOrder

namespace Choices

/-- Every option is available or disabled, none is both, and some step is recorded. -/
structure Partitioned (c : Choices) : Prop where
  disjoint : ∀ id ∈ c.available, id ∉ c.disabled
  cover : ∀ id, id ∈ c.all ↔ id ∈ c.available ∨ id ∈ c.disabled
  recorded : c.history ≠ []

def sets (c : Choices) : IdSet × IdSet × IdSet := (c.all, c.available, c.disabled)

theorem partitioned_ofIds (ids : List String) {history : List Step} (some : history ≠ []) :
    (ofIds ids history).Partitioned :=
  ⟨by simp [ofIds], by simp [ofIds], some⟩

theorem Partitioned.keep {c : Choices} (h : c.Partitioned) {kept : IdSet}
    (fewer : ∀ id ∈ kept, id ∈ c.available) (step : Step) : (c.keep kept step).Partitioned := by
  refine ⟨?_, ?_, by simp [Choices.keep]⟩
  · intro id member disabled
    rcases (IdSet.mem_union _ _ id).mp disabled with before | now
    · exact h.disjoint id (fewer id member) before
    · exact ((IdSet.mem_diff _ _ id).mp now).2 member
  · intro id
    have parts := h.cover id
    simp only [Choices.keep, IdSet.mem_union, IdSet.mem_diff]
    by_cases member : id ∈ kept
    · have available := fewer id member
      simp [parts, member, available]
    · simp [parts, member, or_comm]

end Choices

namespace Rule.Constraint

def Permits (k : Constraint) (id : String) : Prop := (k.allow = [] ∨ id ∈ k.allow) ∧ id ∉ k.deny

end Rule.Constraint

theorem Keyed.keys_put_of_get? {α : Type} {m : Keyed α} {key : String} {old : α}
    (found : get? m key = some old) (value : α) : keys (put m key value) = keys m := by
  induction m with
  | nil => cases found
  | cons e rest ih =>
    obtain ⟨k, v⟩ := e
    by_cases same : k = key
    · simp [put, keys, same]
    · rw [get?, if_neg same] at found
      rw [put, if_neg same]
      exact congrArg (k :: ·) (ih found)

namespace Availability

theorem mem_permitted {k : Rule.Constraint} {available : IdSet} {id : String} :
    id ∈ permitted k available ↔ id ∈ available ∧ k.Permits id := by
  unfold permitted Rule.Constraint.Permits
  rw [IdSet.mem_diff]
  by_cases free : k.allow = []
  · simp [free]
  · rw [List.isEmpty_eq_false_iff.mpr free, if_neg (by decide), IdSet.mem_inter]
    simp [free, and_assoc]

theorem permitted_eq_self {k : Rule.Constraint} {available : IdSet}
    (all : ∀ id ∈ available, k.Permits id) : permitted k available = available := by
  unfold permitted
  have allowed : (if k.allow.isEmpty then available else IdSet.inter available k.allow) =
      available := by
    split
    · rfl
    · rename_i limited
      apply List.filter_eq_self.mpr
      intro id member
      have listed := (all id member).1.resolve_left (by simpa using limited)
      simpa using listed
  rw [allowed]
  apply List.filter_eq_self.mpr
  intro id member
  simpa using (all id member).2

def limit (c : Choices) (k : Rule.Constraint) : Choices :=
  c.keep (permitted k c.available) .ruleConstraints

theorem all_limits (ks : List Rule.Constraint) (c : Choices) : (ks.foldl limit c).all = c.all := by
  induction ks generalizing c with
  | nil => rfl
  | cons k rest ih =>
    rw [List.foldl_cons, ih]
    rfl

theorem mem_limits {ks : List Rule.Constraint} {c : Choices} {id : String} :
    id ∈ (ks.foldl limit c).available ↔ id ∈ c.available ∧ ∀ k ∈ ks, k.Permits id := by
  induction ks generalizing c with
  | nil => simp
  | cons k rest ih =>
    rw [List.foldl_cons, ih, limit, Choices.keep, mem_permitted, List.forall_mem_cons, and_assoc]

theorem sets_limit {k : Rule.Constraint} {c : Choices} (all : ∀ id ∈ c.available, k.Permits id) :
    (limit c k).sets = c.sets := by
  have nothing : IdSet.diff c.available c.available = [] := by
    rw [IdSet.diff, List.filter_eq_nil_iff]
    intro id member
    simpa using member
  simp only [limit, Choices.keep, Choices.sets, permitted_eq_self all, nothing, IdSet.union]

theorem sets_limits {ks : List Rule.Constraint} {c : Choices}
    (all : ∀ id ∈ c.available, ∀ k ∈ ks, k.Permits id) : (ks.foldl limit c).sets = c.sets := by
  induction ks generalizing c with
  | nil => rfl
  | cons k rest ih =>
    have first : (limit c k).sets = c.sets :=
      sets_limit (fun id member => all id member k (by simp))
    have same : (limit c k).available = c.available := congrArg (fun sets => sets.2.1) first
    rw [List.foldl_cons, ih, first]
    intro id member k' later
    exact all id (same ▸ member) k' (List.mem_cons_of_mem _ later)

def limitOn (collection : String) (target : Value × Rule.Constraint) : Option Rule.Constraint :=
  match target.1 with
  | .text name => if name = collection then some target.2 else none
  | _ => none

theorem get?_constrainOne (choices : Keyed Choices) (target : Value × Rule.Constraint)
    (collection : String) :
    Keyed.get? (constrainOne choices target) collection =
      (Keyed.get? choices collection).map
        (fun c => (limitOn collection target).elim c (limit c)) := by
  have unchanged : Keyed.get? choices collection =
      (Keyed.get? choices collection).map (fun c => c) := Option.map_id'.symm
  unfold constrainOne limitOn
  cases target.1 with
  | text name =>
    dsimp only
    by_cases same : name = collection
    · subst same
      cases found : Keyed.get? choices name with
      | none => simp [found]
      | some c => simp [Keyed.get?_put_self, limit]
    · rw [if_neg same]
      split
      · rw [Keyed.get?_put_of_ne _ _ (Ne.symm same)]
        exact unchanged
      · exact unchanged
  | _ => exact unchanged

def limitsOn (constraints : Rule.Constraints) (collection : String) : List Rule.Constraint :=
  constraints.filterMap (limitOn collection)

theorem get?_constrain (a : Availability) (constraints : Rule.Constraints) (collection : String) :
    Keyed.get? (a.constrain constraints).choices collection =
      (Keyed.get? a.choices collection).map
        (fun c => (limitsOn constraints collection).foldl limit c) := by
  unfold constrain
  dsimp only
  generalize a.choices = choices
  induction constraints generalizing choices with
  | nil => simp [limitsOn]
  | cons target rest ih =>
    rw [List.foldl_cons, ih, get?_constrainOne, Option.map_map]
    congr 1
    funext c
    cases named : limitOn collection target <;> simp [limitsOn, named]

def Everywhere (P : String → Choices → Prop) (choices : Keyed Choices) : Prop :=
  ∀ collection c, Keyed.get? choices collection = some c → P collection c

section Computed

variable {snapshot : Snapshot} {selection : Selection} {line : Value} {trigger : Trigger}
  {a : Availability} {P : String → Choices → Prop}

theorem matchChoices_keeps {collection : String} {c : Choices} {products : List Product}
    {selected : Keyed String} (h : P collection c)
    (matching : ∀ seen, P collection (c.keep (IdSet.inter c.available seen) .productMatching)) :
    P collection (matchChoices products selected collection c) := by
  unfold matchChoices
  dsimp only
  split
  · exact h
  · exact matching _

/-- What holds of line defaults and goes on holding as matching keeps fewer options. -/
theorem everywhere_afterMatching {defaults : Keyed (List String)}
    (start : ∀ collection ids, (collection, ids) ∈ defaults →
      P collection (Choices.ofIds ids [.lineDefaults]))
    (matching : ∀ collection c seen, P collection c →
      P collection (c.keep (IdSet.inter c.available seen) .productMatching)) :
    Everywhere P (afterMatching selection line snapshot defaults) := by
  have started : Everywhere P (startingChoices defaults) := by
    intro collection c found
    rw [startingChoices, Keyed.get?_mapValues] at found
    obtain ⟨ids, listed, rfl⟩ := Option.map_eq_some_iff.mp found
    exact start collection ids (Keyed.mem_of_get? listed)
  intro collection c found
  by_cases listed : collection ∈ snapshot.table.attributes.map FieldSpec.collection
  · obtain ⟨spec, member, rfl⟩ := List.mem_map.mp listed
    rw [get?_afterMatching_attribute member] at found
    obtain ⟨d, before, rfl⟩ := Option.map_eq_some_iff.mp found
    have held := started _ d before
    split
    · exact held
    · exact matchChoices_keeps held (fun seen => matching _ d seen held)
  · rw [get?_afterMatching_other listed] at found
    exact started collection c found

theorem offered_of_replacement (computed : compute selection line snapshot trigger = .ok a)
    {collection : String} {ids : IdSet}
    (items : replacement selection line snapshot trigger collection = some ids) :
    ∀ id ∈ ids, Offered snapshot a.candidates collection id := by
  intro id member
  rw [replacement] at items
  split at items
  · rw [← mem_overrideItems computed, itemsIn, items]
    exact member
  · cases items

/-- The options of a line are line defaults, fewer of them, or offered rows. What holds of
all these holds of every collection. -/
theorem everywhere_compute (computed : compute selection line snapshot trigger = .ok a)
    (start : ∀ defaults, snapshot.lineDefaults line = .ok defaults → ∀ collection ids,
      (collection, ids) ∈ defaults → P collection (Choices.ofIds ids [.lineDefaults]))
    (matching : ∀ collection c seen, P collection c →
      P collection (c.keep (IdSet.inter c.available seen) .productMatching))
    (rows : ∀ collection ids history, (∀ id ∈ ids, Offered snapshot a.candidates collection id) →
      P collection (Choices.ofIds ids (history ++ [.productOverrides]))) :
    Everywhere P a.choices := by
  obtain ⟨defaults, known, choices⟩ := get?_choices computed
  intro collection c found
  rw [choices collection] at found
  cases items : replacement selection line snapshot trigger collection with
  | none =>
    rw [items] at found
    exact everywhere_afterMatching (start defaults known) matching collection c found
  | some ids =>
    rw [items, replace, Option.some.injEq] at found
    rw [← found]
    exact rows collection ids _ (offered_of_replacement computed items)

theorem everywhere_constrain (constraints : Rule.Constraints)
    (step : ∀ collection c k, P collection c → P collection (limit c k))
    (h : Everywhere P a.choices) : Everywhere P (a.constrain constraints).choices := by
  intro collection c found
  rw [get?_constrain] at found
  obtain ⟨d, before, rfl⟩ := Option.map_eq_some_iff.mp found
  have held := h collection d before
  generalize limitsOn constraints collection = ks
  clear found before
  induction ks generalizing d with
  | nil => exact held
  | cons k rest ih => exact ih (limit d k) (step collection d k held)

theorem nodup_matchProducts {products : List Product} {selected : Keyed String}
    {choices : Keyed Choices} (h : (Keyed.keys choices).Nodup) (specs : List FieldSpec) :
    (Keyed.keys (matchProducts products selected choices specs)).Nodup := by
  unfold matchProducts
  induction specs generalizing choices with
  | nil => exact h
  | cons spec rest ih =>
    rw [List.foldl_cons]
    apply ih
    unfold matchOne
    split
    · exact h
    · dsimp only
      split
      · exact h
      · exact Keyed.nodup_keys_put h _ _

theorem nodup_replaceAll {choices : Keyed Choices} (h : (Keyed.keys choices).Nodup)
    (groups : Keyed IdSet) : (Keyed.keys (groups.foldl replaceOne choices)).Nodup := by
  induction groups generalizing choices with
  | nil => exact h
  | cons group rest ih => exact ih (Keyed.nodup_keys_put h _ _)

theorem nodup_compute (computed : compute selection line snapshot trigger = .ok a) :
    (Keyed.keys a.choices).Nodup := by
  rw [compute_eq] at computed
  obtain ⟨defaults, known, rfl⟩ := map_eq_ok.mp computed
  have started : (Keyed.keys (startingChoices defaults)).Nodup := by
    rw [startingChoices, Keyed.keys, Keyed.mapValues, List.map_map]
    exact Snapshot.nodup_lineDefaults known
  have matched : (Keyed.keys (afterMatching selection line snapshot defaults)).Nodup := by
    unfold afterMatching
    dsimp only
    split
    · exact started
    · exact nodup_matchProducts started _
  dsimp only
  split
  · exact nodup_replaceAll matched _
  · exact matched

theorem keys_constrainOne (choices : Keyed Choices) (target : Value × Rule.Constraint) :
    Keyed.keys (constrainOne choices target) = Keyed.keys choices := by
  unfold constrainOne
  split
  · split
    · rename_i found
      exact Keyed.keys_put_of_get? found _
    · rfl
  · rfl

theorem keys_constrain (a : Availability) (constraints : Rule.Constraints) :
    Keyed.keys (a.constrain constraints).choices = Keyed.keys a.choices := by
  unfold constrain
  dsimp only
  generalize a.choices = choices
  induction constraints generalizing choices with
  | nil => rfl
  | cons target rest ih => rw [List.foldl_cons, ih, keys_constrainOne]

/-- Every collection stands once, with its options and what became of them. -/
structure Partitioned (a : Availability) : Prop where
  distinct : (Keyed.keys a.choices).Nodup
  parts : Everywhere (fun _ c => c.Partitioned) a.choices

theorem partitioned_compute (computed : compute selection line snapshot trigger = .ok a) :
    a.Partitioned := by
  refine ⟨nodup_compute computed, everywhere_compute computed ?_ ?_ ?_⟩
  · intro defaults _ collection ids _
    exact Choices.partitioned_ofIds ids (by simp)
  · intro collection c seen parts
    exact parts.keep (fun id kept => ((IdSet.mem_inter _ _ id).mp kept).1) _
  · intro collection ids history _
    exact Choices.partitioned_ofIds ids (by simp)

theorem Partitioned.constrain (h : a.Partitioned) (constraints : Rule.Constraints) :
    (a.constrain constraints).Partitioned := by
  refine ⟨?_, everywhere_constrain constraints ?_ h.parts⟩
  · rw [keys_constrain]
    exact h.distinct
  · intro collection c k parts
    exact parts.keep (fun id kept => (mem_permitted.mp kept).1) _

/-- Every option is the key of an active option of its collection. -/
def Stocked (snapshot : Snapshot) (a : Availability) : Prop :=
  Everywhere (fun collection c => ∀ id ∈ c.all, snapshot.HasActive collection id) a.choices

theorem stocked_compute (filed : snapshot.Filed) (active : snapshot.Active)
    (computed : compute selection line snapshot trigger = .ok a) : Stocked snapshot a := by
  refine everywhere_compute computed ?_ ?_ ?_
  · intro defaults known collection ids listed id member
    rw [Choices.ofIds, IdSet.mem_ofList] at member
    exact Snapshot.hasActive_lineDefaults filed active known _ listed id member
  · intro collection c seen stocked
    exact stocked
  · intro collection ids history offered id member
    rw [Choices.ofIds, IdSet.mem_ofList] at member
    obtain ⟨_, _, _, _, _, found⟩ := offered id member
    obtain ⟨o, found⟩ := Option.isSome_iff_exists.mp found
    exact .of_option? filed active found

theorem Stocked.constrain (h : Stocked snapshot a) (constraints : Rule.Constraints) :
    Stocked snapshot (a.constrain constraints) :=
  everywhere_constrain constraints (fun _ _ _ stocked => stocked) h

theorem sets_constrain_again (a : Availability) (constraints : Rule.Constraints)
    (collection : String) :
    (Keyed.get? ((a.constrain constraints).constrain constraints).choices collection).map
        Choices.sets =
      (Keyed.get? (a.constrain constraints).choices collection).map Choices.sets := by
  rw [get?_constrain (a.constrain constraints), get?_constrain, Option.map_map, Option.map_map,
    Option.map_map]
  congr 1
  funext c
  -- What a run of the constraints leaves, each of them permits.
  exact sets_limits (fun id left => (mem_limits.mp left).2)

/-- Before and after constraints, every collection stands once, its options are either
available or disabled, and for the snapshot of a source all are keys of active options.
Constraints leave the collections and all options, only make fewer of them available, and
do nothing more a second time. -/
theorem options_partitioned (snapshot : Snapshot) (selection : Selection) (line : Value)
    (trigger : Trigger) (constraints : Rule.Constraints) (a : Availability)
    (computed : compute selection line snapshot trigger = .ok a) :
    (a.Partitioned ∧ (a.constrain constraints).Partitioned) ∧
      (snapshot.Delivered → Stocked snapshot a ∧ Stocked snapshot (a.constrain constraints)) ∧
      Keyed.keys (a.constrain constraints).choices = Keyed.keys a.choices ∧
      (∀ collection c, Keyed.get? a.choices collection = some c →
        ∃ d, Keyed.get? (a.constrain constraints).choices collection = some d ∧
          d.all = c.all ∧ ∀ id ∈ d.available, id ∈ c.available) ∧
      ∀ collection,
        (Keyed.get? ((a.constrain constraints).constrain constraints).choices collection).map
            Choices.sets =
          (Keyed.get? (a.constrain constraints).choices collection).map Choices.sets := by
  have parts := partitioned_compute computed
  refine ⟨⟨parts, parts.constrain constraints⟩, ?_, keys_constrain a constraints, ?_,
    sets_constrain_again a constraints⟩
  · intro delivered
    have stocked := stocked_compute delivered.filed delivered.active computed
    exact ⟨stocked, stocked.constrain constraints⟩
  · intro collection c found
    rw [get?_constrain, found]
    exact ⟨_, rfl, all_limits _ c, fun id left => (mem_limits.mp left).1⟩

end Computed

def optionRecord (id : String) (active : Bool) : Value :=
  .object [("id", .text id), ("active", .bool active)]

def defaultRecord (item : String) : Value :=
  .object [("collection", .text "colors"), ("item", .text item)]

def largeRedSource : Source (Except Fault) where
  lines := .ok [.object [("id", .text "deco"), ("default_options",
    .list [defaultRecord "red", defaultRecord "blue", defaultRecord "gray"])]]
  options collection := .ok (
    if collection = "colors" then
      [optionRecord "red" true, optionRecord "blue" true, optionRecord "gray" false]
    else [optionRecord "small" true, optionRecord "large" true])
  products := .ok [.object [("id", .int 1), ("product_line", .text "deco"),
    ("color", .text "red")]]
  overrides := .ok [.object [("products_id", .int 1), ("collection", .text "sizes"),
    ("item", .text "large")]]
  rules := .ok []
  codeFields := .ok []

def noRed : Rule.Constraints :=
  [(.text "colors", ⟨[], ["red"]⟩), (.text "sizes", ⟨["small"], []⟩),
    (.text "shapes", ⟨["round"], []⟩)]

/-- Blue was taken by matching and red is by a constraint; gray is no option at all. -/
theorem no_color_left :
    ∃ s a c d, s.Delivered ∧
      compute [("color", .text "red")] (.text "deco") s Trigger.standard = .ok a ∧
      a.Partitioned ∧ (a.constrain noRed).Partitioned ∧ Stocked s (a.constrain noRed) ∧
      Keyed.get? a.choices "colors" = some c ∧
      Keyed.get? (a.constrain noRed).choices "colors" = some d ∧ d.all = c.all ∧
      c.sets = (["blue", "red"], ["red"], ["blue"]) ∧
      d.sets = (["blue", "red"], [], ["blue", "red"]) := by
  have built : ∃ s a c d, largeRedSource.snapshot smallRedLargeBlue.table "" = .ok s ∧
      compute [("color", .text "red")] (.text "deco") s Trigger.standard = .ok a ∧
      Keyed.get? a.choices "colors" = some c ∧
      Keyed.get? (a.constrain noRed).choices "colors" = some d ∧
      c.sets = (["blue", "red"], ["red"], ["blue"]) ∧
      d.sets = (["blue", "red"], [], ["blue", "red"]) := ⟨_, _, _, _, rfl, rfl, rfl, rfl, rfl, rfl⟩
  obtain ⟨s, a, c, d, delivers, computed, before, after, setsBefore, setsAfter⟩ := built
  have delivered : s.Delivered := .direct largeRedSource smallRedLargeBlue.table "" delivers
  obtain ⟨⟨parts, left⟩, stocked, _, fewer, _⟩ := options_partitioned s [("color", .text "red")]
    (.text "deco") Trigger.standard noRed a computed
  obtain ⟨d', after', same, _⟩ := fewer "colors" c before
  obtain rfl := Option.some.inj (after.symm.trans after')
  exact ⟨s, a, c, d, delivered, computed, parts, left, (stocked delivered).2, before, after, same,
    setsBefore, setsAfter⟩

end Availability

end MadeToOrder
