import MadeToOrder.Proofs.Availability.Matching
import MadeToOrder.Report
import MadeToOrder.Service.Reply

/-!
# What replies show

A reply of any shape shows what is left of a value without its reserved fields. The four views
of options have the same collections, and lists of ids in them, so nothing in them but the name
of a collection can be left out.
-/

set_option autoImplicit false

namespace MadeToOrder

namespace Service

variable {v : Value} {items : List Value} {fs : List (String × Value)}

theorem isShowable_list_iff :
    isShowable (.list items) = true ↔ ∀ v ∈ items, isShowable v = true := by
  rw [isShowable]
  induction items with
  | nil => simp [areShowable]
  | cons v rest ih => simp [areShowable, ih]

theorem isShowable_object_iff :
    isShowable (.object fs) = true ↔ ∀ f ∈ fs, isShowable f.2 = true := by
  rw [isShowable]
  induction fs with
  | nil => simp [fieldsShowable]
  | cons f rest ih => rw [fieldsShowable, Bool.and_eq_true, ih, List.forall_mem_cons]

theorem withoutReserved_list :
    withoutReserved (.list items) = .list (items.map withoutReserved) := by
  rw [withoutReserved]
  induction items with
  | nil => rfl
  | cons v rest ih => simpa [itemsWithoutReserved] using ih

theorem withoutReserved_object : withoutReserved (.object fs) =
    .object ((fs.filter (fun f => !isReserved f.1)).map (fun f => (f.1, withoutReserved f.2))) := by
  rw [withoutReserved]
  induction fs with
  | nil => rfl
  | cons f rest ih =>
    rw [Value.object.injEq] at ih ⊢
    rw [fieldsWithoutReserved, ih, List.filter_cons]
    cases isReserved f.1 <;> rfl

theorem withoutReserved_list_eq_self (h : ∀ v ∈ items, withoutReserved v = v) :
    withoutReserved (.list items) = .list items := by
  rw [withoutReserved_list, List.map_congr_left h, List.map_id']

theorem withoutReserved_object_eq_self (names : ∀ f ∈ fs, isReserved f.1 = false)
    (h : ∀ f ∈ fs, withoutReserved f.2 = f.2) : withoutReserved (.object fs) = .object fs := by
  have kept : fs.filter (fun f => !isReserved f.1) = fs :=
    List.filter_eq_self.mpr (fun f member => by simp [names f member])
  have same : ∀ f ∈ fs, (f.1, withoutReserved f.2) = f := fun f member => by rw [h f member]
  rw [withoutReserved_object, kept, List.map_congr_left same, List.map_id']

theorem isShowable_withoutReserved (h : isShowable v = true) :
    isShowable (withoutReserved v) = true := by
  induction v using Value.induction with
  | scalar v flat =>
    cases v with
    | list | object => cases flat
    | _ => exact h
  | list items ih =>
    rw [isShowable_list_iff] at h
    rw [withoutReserved_list, isShowable_list_iff, List.forall_mem_map]
    exact fun v member => ih v member (h v member)
  | object fs ih =>
    rw [isShowable_object_iff] at h
    rw [withoutReserved_object, isShowable_object_iff, List.forall_mem_map]
    intro f kept
    have member := (List.mem_filter.mp kept).1
    exact ih f member (h f member)

theorem isShowable_strings (ids : List String) : isShowable (Report.strings ids) = true := by
  rw [Report.strings, isShowable_list_iff, List.forall_mem_map]
  exact fun _ _ => rfl

theorem withoutReserved_strings (ids : List String) :
    withoutReserved (Report.strings ids) = Report.strings ids :=
  withoutReserved_list_eq_self (List.forall_mem_map.mpr (fun _ _ => rfl))

end Service

namespace Availability

variable {s : Snapshot} {trigger : Trigger} {line : Value} {selection : Selection}
  {a : Availability}

theorem subject_groupItems (groups : Keyed IdSet) (rows : List OverrideRow) :
    ∀ d ∈ (groupItems s groups rows).2, ∃ collection, d.subject = .text collection := by
  induction rows generalizing groups with
  | nil => exact fun _ => nofun
  | cons row rest ih =>
    rw [groupItems]
    split
    · exact List.forall_mem_cons.mpr ⟨⟨row.collection, rfl⟩, ih groups⟩
    · exact ih _

theorem subject_compute (computed : compute selection line s trigger = .ok a) :
    ∀ d ∈ a.diagnostics, ∃ collection, d.subject = .text collection := by
  rw [compute_eq] at computed
  obtain ⟨defaults, _, rfl⟩ := map_eq_ok.mp computed
  dsimp only
  split
  · exact subject_groupItems _ _
  · exact fun _ => nofun

end Availability

namespace Report

variable {a : Availability} {v : Value} {view : List (String × Value)}

/-- A list of ids for each of the collections. -/
def IsView (choices : Keyed Choices) (view : List (String × Value)) : Prop :=
  Keyed.keys view = Keyed.keys choices ∧ ∀ f ∈ view, ∃ ids, f.2 = strings ids

theorem isView_idLists {choose : Choices → IdSet} {choices : Keyed Choices}
    (shown : idLists choose choices = .ok view) : IsView choices view := by
  induction choices generalizing view with
  | nil =>
    obtain rfl := Except.ok.inj shown
    exact ⟨rfl, fun _ => nofun⟩
  | cons e rest ih =>
    obtain ⟨ids, _, shown⟩ := bind_eq_ok.mp shown
    obtain ⟨others, later, shown⟩ := bind_eq_ok.mp shown
    obtain rfl := Except.ok.inj shown
    obtain ⟨keys, lists⟩ := ih later
    exact ⟨congrArg (e.1 :: ·) keys, List.forall_mem_cons.mpr ⟨⟨ids, rfl⟩, lists⟩⟩

theorem isView_history (choices : Keyed Choices) :
    IsView choices (Keyed.mapValues history choices) := by
  constructor
  · rw [Keyed.keys, Keyed.mapValues, List.map_map]
    rfl
  · exact List.forall_mem_map.mpr (fun e _ => ⟨e.2.history.map Step.name, rfl⟩)

/-- The views of all, available and disabled options and of the steps have the same
collections. -/
theorem availability_eq_ok (shown : availability a = .ok v) : ∃ all available disabled history,
    v = .object [("all", .object all), ("available", .object available),
      ("disabled", .object disabled), ("filtering_history", .object history),
      ("candidate_product_ids", strings a.candidates),
      ("diagnostics", diagnostics a.diagnostics)] ∧
    ∀ view ∈ [all, available, disabled, history], IsView a.choices view := by
  obtain ⟨all, first, shown⟩ := bind_eq_ok.mp shown
  obtain ⟨available, second, shown⟩ := bind_eq_ok.mp shown
  obtain ⟨disabled, third, shown⟩ := bind_eq_ok.mp shown
  obtain rfl := Except.ok.inj shown
  refine ⟨all, available, disabled, _, rfl, ?_⟩
  simp [isView_idLists first, isView_idLists second, isView_idLists third, isView_history]

end Report

namespace Service

open Report (IsView)

variable {choices : Keyed Choices} {view : List (String × Value)} {a : Availability}
  {options : Value}

theorem isShowable_view (h : IsView choices view) : isShowable (.object view) = true := by
  rw [isShowable_object_iff]
  intro f member
  obtain ⟨ids, same⟩ := h.2 f member
  rw [same, isShowable_strings]

theorem withoutReserved_view (h : IsView choices view)
    (names : ∀ collection ∈ Keyed.keys choices, isReserved collection = false) :
    withoutReserved (.object view) = .object view := by
  apply withoutReserved_object_eq_self
  · intro f member
    exact names f.1 (h.1 ▸ List.mem_map_of_mem member)
  · intro f member
    obtain ⟨ids, same⟩ := h.2 f member
    rw [same, withoutReserved_strings]

theorem isShowable_availability
    (subjects : ∀ d ∈ a.diagnostics, ∃ collection, d.subject = .text collection)
    (shown : Report.availability a = .ok options) : isShowable options = true := by
  obtain ⟨all, available, disabled, history, rfl, views⟩ := Report.availability_eq_ok shown
  simp only [List.forall_mem_cons] at views
  obtain ⟨first, second, third, fourth, _⟩ := views
  have reports : isShowable (Report.diagnostics a.diagnostics) = true := by
    rw [Report.diagnostics, isShowable_list_iff, List.forall_mem_map]
    intro d member
    obtain ⟨collection, subject⟩ := subjects d member
    simp [Report.diagnostic, subject, isShowable, fieldsShowable]
  simp [isShowable_object_iff, isShowable_view first, isShowable_view second,
    isShowable_view third, isShowable_view fourth, isShowable_strings, reports]

theorem withoutReserved_availability
    (subjects : ∀ d ∈ a.diagnostics, ∃ collection, d.subject = .text collection)
    (names : ∀ collection ∈ Keyed.keys a.choices, isReserved collection = false)
    (shown : Report.availability a = .ok options) : withoutReserved options = options := by
  obtain ⟨all, available, disabled, history, rfl, views⟩ := Report.availability_eq_ok shown
  simp only [List.forall_mem_cons] at views
  obtain ⟨first, second, third, fourth, _⟩ := views
  have reports : withoutReserved (Report.diagnostics a.diagnostics) =
      Report.diagnostics a.diagnostics := by
    apply withoutReserved_list_eq_self
    rw [List.forall_mem_map]
    intro d member
    obtain ⟨collection, subject⟩ := subjects d member
    rw [Report.diagnostic, subject]
    exact withoutReserved_object_eq_self (by simp; decide) (by simp [withoutReserved])
  apply withoutReserved_object_eq_self
  · simp only [List.forall_mem_cons]
    decide
  · simp [withoutReserved_view first names, withoutReserved_view second names,
      withoutReserved_view third names, withoutReserved_view fourth names,
      withoutReserved_strings, reports]

end Service

end MadeToOrder
