import MadeToOrder.Proofs.Rule.Ranking

/-!
# Merging by rank

Merging goes up the ranks, so the last assignment of the highest rule that
assigns a slot stands. A restriction to exact values forgets what lower rules
allowed and took away, and what higher rules allow and take away is added.
-/

set_option autoImplicit false

namespace MadeToOrder

theorem Text.beforeEnding?_eq_some {s ending base : String} :
    Text.beforeEnding? s ending = some base ↔ s = base ++ ending := by
  unfold Text.beforeEnding?
  constructor
  · intro h
    split at h
    · rename_i suffix
      obtain ⟨front, whole⟩ := List.isSuffixOf_iff_suffix.mp suffix
      obtain rfl := Option.some.inj h
      have size : s.length - ending.length = front.length := by
        rw [← String.length_toList, ← String.length_toList, ← whole, List.length_append]
        omega
      apply String.toList_inj.mp
      rw [String.toList_append, String.toList_ofList, size, ← whole, List.take_left']
      rfl
    · simp at h
  · rintro rfl
    have suffix : ending.toList.isSuffixOf (base ++ ending).toList = true := by
      rw [List.isSuffixOf_iff_suffix, String.toList_append]
      exact List.suffix_append _ _
    rw [if_pos suffix, String.toList_append, String.length_append, Nat.add_sub_cancel]
    rw [← String.length_toList, List.take_left', String.ofList_toList]
    rfl

namespace Rule

namespace Overrides

def held (o : Overrides) : Slot → Option Value
  | .product => o.product.map Value.text
  | .line => o.line.map Value.text
  | .segment collection => (Keyed.get? o.segments collection).map Value.text
  | .field key => Keyed.get? o.fields key

def Slot.form : Slot → Value → Value
  | .field _, v => v
  | _, v => .text v.plain

theorem held_assign (table : Option FieldTable) (o : Overrides) (a : Assignment) (slot : Slot) :
    (assign table o a).held slot =
      if slotOf table a.1 = slot then some (slot.form a.2) else o.held slot := by
  unfold assign
  by_cases same : slotOf table a.1 = slot
  · rw [if_pos same, same]
    cases slot <;> simp [held, Slot.form, Keyed.get?_put_self]
  · rw [if_neg same]
    cases here : slotOf table a.1 <;> cases slot <;>
      simp_all [held, Keyed.get?_put_of_ne, eq_comm]

variable {table : Option FieldTable}

def last? (table : Option FieldTable) (slot : Slot) (as : List Assignment) : Option Assignment :=
  (as.filter (fun a => slotOf table a.1 = slot)).getLast?

theorem held_foldl_assign (as : List Assignment) (o : Overrides) (slot : Slot) :
    (as.foldl (assign table) o).held slot =
      match last? table slot as with
      | some a => some (slot.form a.2)
      | none => o.held slot := by
  unfold last?
  induction as generalizing o with
  | nil => rfl
  | cons a rest ih =>
    rw [List.foldl_cons, ih, held_assign]
    by_cases same : slotOf table a.1 = slot
    · cases later : (rest.filter (fun a => slotOf table a.1 = slot)).getLast? <;>
        simp [same, later, List.getLast?_cons]
    · simp [same]

def assignAll (table : Option FieldTable) (o : Overrides) (c : Compiled) : Overrides :=
  c.assignments.foldl (assign table) o

theorem held_assignAll {c : Compiled} {slot : Slot} {a : Assignment}
    (h : last? table slot c.assignments = some a) (o : Overrides) :
    (assignAll table o c).held slot = some (slot.form a.2) := by
  rw [assignAll, held_foldl_assign, h]

theorem held_assignAll_of_none {c : Compiled} {slot : Slot}
    (h : last? table slot c.assignments = none) (o : Overrides) :
    (assignAll table o c).held slot = o.held slot := by
  rw [assignAll, held_foldl_assign, h]

theorem held_foldl_assignAll {cs : List Compiled} {slot : Slot}
    (h : ∀ c ∈ cs, last? table slot c.assignments = none) (o : Overrides) :
    (cs.foldl (assignAll table) o).held slot = o.held slot := by
  induction cs generalizing o with
  | nil => rfl
  | cons c rest ih =>
    obtain ⟨here, others⟩ := List.forall_mem_cons.mp h
    rw [List.foldl_cons, ih others, held_assignAll_of_none here]

structure SlotNames (table : Option FieldTable) : Prop where
  product : slotOf table "sku_code" = .product
  line : slotOf table "product_line_sku_code" = .line
  segment : ∀ base spec, base ++ "_sku_code" ≠ "product_line_sku_code" →
    table.bind (fun t => t.resolve? base) = some spec →
    slotOf table (base ++ "_sku_code") =
      if spec.collection = "product_lines" then .line else .segment spec.collection
  field : ∀ key, key ≠ "sku_code" → key ≠ "product_line_sku_code" →
    (∀ base, key = base ++ "_sku_code" → table.bind (fun t => t.resolve? base) = none) →
    slotOf table key = .field key

theorem slotNames (table : Option FieldTable) : SlotNames table where
  product := rfl
  line := rfl
  segment := by
    intro base spec other resolved
    have ends : Text.beforeEnding? (base ++ "_sku_code") codeEnding = some base :=
      Text.beforeEnding?_eq_some.mpr rfl
    have long : base ++ "_sku_code" ≠ "sku_code" := by
      intro same
      have size := congrArg String.length same
      rw [String.length_append] at size
      have : "_sku_code".length = 9 := by decide
      have : "sku_code".length = 8 := by decide
      omega
    simp only [slotOf, if_neg long, if_neg other, ends, resolved, FieldSpec.isLine, beq_iff_eq,
      lineCollection]
  field := by
    intro key notProduct notLine unresolved
    unfold slotOf
    rw [if_neg notProduct, if_neg notLine]
    cases ends : Text.beforeEnding? key codeEnding with
    | none => rfl
    | some base => simp only [unresolved base (Text.beforeEnding?_eq_some.mp ends)]

end Overrides

namespace Constraints

def OfKeys (cs : Constraints) : Prop := ∀ e ∈ cs, e.1.isHashable = true

theorem ofKeys_put {cs : Constraints} (h : OfKeys cs) {target : Value}
    (key : target.isHashable = true) (k : Constraint) : OfKeys (put cs target k) := by
  induction cs with
  | nil =>
    intro e member
    rw [put, List.mem_singleton] at member
    rw [member]
    exact key
  | cons first rest ih =>
    obtain ⟨t, old⟩ := first
    have here := h (t, old) (by simp)
    have others := ih (fun e member => h e (List.mem_cons_of_mem _ member))
    intro e member
    rw [put] at member
    split at member
    · rcases List.mem_cons.mp member with rfl | later
      · exact here
      · exact h e (List.mem_cons_of_mem _ later)
    · rcases List.mem_cons.mp member with rfl | later
      · exact here
      · exact others e later

theorem get?_congr {cs : Constraints} (h : OfKeys cs) {a b : Value}
    (key : a.isHashable = true) (same : a.agrees b = true) : get? cs a = get? cs b := by
  induction cs with
  | nil => rfl
  | cons first rest ih =>
    obtain ⟨t, k⟩ := first
    have here := h (t, k) (by simp)
    have others := ih (fun e member => h e (List.mem_cons_of_mem _ member))
    have alike : t.agrees a = t.agrees b := by
      rw [Bool.eq_iff_iff, Value.agrees_iff_identity? here, Value.agrees_iff_identity? here,
        (Value.agrees_iff_identity? key).mp same]
    rw [get?, get?, alike, others]

theorem get?_put {cs : Constraints} (h : OfKeys cs) {target : Value}
    (key : target.isHashable = true) (k : Constraint) (wanted : Value) :
    get? (put cs target k) wanted = if target.agrees wanted then some k else get? cs wanted := by
  induction cs with
  | nil => rfl
  | cons first rest ih =>
    obtain ⟨t, old⟩ := first
    have here := h (t, old) (by simp)
    have others := ih (fun e member => h e (List.mem_cons_of_mem _ member))
    by_cases same : t.agrees target = true
    · rw [put, if_pos same, get?, get?, Value.agrees_congr here key same]
      split <;> rfl
    · rw [put, if_neg same, get?, get?, others]
      by_cases found : t.agrees wanted = true
      · have apart : target.agrees wanted ≠ true := by
          intro also
          apply same
          rw [Value.agrees_iff_identity? here, (Value.agrees_iff_identity? here).mp found,
            (Value.agrees_iff_identity? key).mp also]
        rw [if_pos found, if_pos found, if_neg apart]
      · rw [if_neg found, if_neg found]

theorem isHashable_targetOf {table : Option FieldTable} {field : Value}
    (h : field.isHashable = true) : (targetOf table field).isHashable = true := by
  unfold targetOf
  split
  · split
    · rfl
    · exact h
  · exact h

end Constraints

variable {table : Option FieldTable}

def narrowed (table : Option FieldTable) (target : Value) (k : Option Constraint)
    (c : Compiled) : Option Constraint :=
  match c.restriction with
  | none => k
  | some r =>
    if (Constraints.targetOf table r.field).agrees target then
      some ((k.getD ⟨[], []⟩).restrict r.kind (idsOf r.value))
    else k

theorem narrowed_none {c : Compiled} (h : c.restriction = none) (target : Value)
    (k : Option Constraint) : narrowed table target k c = k := by
  simp only [narrowed, h]

theorem narrowed_some {c : Compiled} {r : Restriction} (h : c.restriction = some r)
    (target : Value) (k : Option Constraint) :
    narrowed table target k c =
      if (Constraints.targetOf table r.field).agrees target then
        some ((k.getD ⟨[], []⟩).restrict r.kind (idsOf r.value))
      else k := by
  simp only [narrowed, h]

theorem mergeOne_eq_ok {o o' : Overrides} {cs cs' : Constraints} {c : Compiled}
    (h : mergeOne table o cs c = .ok (o', cs')) (keys : Constraints.OfKeys cs) :
    o' = Overrides.assignAll table o c ∧ Constraints.OfKeys cs' ∧
      ∀ target, Constraints.get? cs' target =
        narrowed table target (Constraints.get? cs target) c := by
  unfold mergeOne at h
  cases restricted : c.restriction with
  | none =>
    simp only [restricted] at h
    obtain ⟨rfl, rfl⟩ := Prod.mk.inj (Except.ok.inj h)
    exact ⟨rfl, keys, fun target => (narrowed_none restricted target _).symm⟩
  | some r =>
    simp only [restricted] at h
    obtain ⟨next, added, same⟩ := map_eq_ok.mp h
    obtain ⟨rfl, rfl⟩ := Prod.mk.inj same
    unfold Constraints.restrict at added
    split at added
    · rename_i hashable
      obtain rfl := Except.ok.inj added
      have key : (Constraints.targetOf table r.field).isHashable = true :=
        Constraints.isHashable_targetOf hashable
      refine ⟨rfl, Constraints.ofKeys_put keys key _, fun target => ?_⟩
      rw [Constraints.get?_put keys key, narrowed_some restricted]
      split
      · rename_i agreeing
        rw [Constraints.get?_congr keys key agreeing]
      · rfl
    · simp at added

theorem merge_eq_ok {o o' : Overrides} {cs cs' : Constraints} {ranked : List Compiled}
    (h : merge table o cs ranked = .ok (o', cs')) (keys : Constraints.OfKeys cs) :
    o' = ranked.foldl (Overrides.assignAll table) o ∧
      ∀ target, Constraints.get? cs' target =
        ranked.foldl (narrowed table target) (Constraints.get? cs target) := by
  induction ranked generalizing o cs with
  | nil =>
    obtain ⟨rfl, rfl⟩ := Prod.mk.inj (Except.ok.inj h)
    exact ⟨rfl, fun target => rfl⟩
  | cons c rest ih =>
    unfold merge at h
    split at h
    · rename_i mid midConstraints merged
      obtain ⟨rfl, keysMid, narrowedBy⟩ := mergeOne_eq_ok merged keys
      obtain ⟨rfl, others⟩ := ih h keysMid
      refine ⟨rfl, fun target => ?_⟩
      rw [others, narrowedBy, List.foldl_cons]
    · simp at h

def Compiled.Restricts (table : Option FieldTable) (kind : RestrictionKind) (target : Value)
    (c : Compiled) : Prop :=
  ∃ r, c.restriction = some r ∧ r.kind = kind ∧
    (Constraints.targetOf table r.field).agrees target = true

def Compiled.ids (c : Compiled) : List String :=
  (c.restriction.map (fun r => idsOf r.value)).getD []

def startOf (k : Option Constraint) : Constraint := k.getD ⟨[], []⟩

theorem narrowed_of_exactly {target : Value} {c : Compiled}
    (h : c.Restricts table .exactly target) (k : Option Constraint) :
    narrowed table target k c = some ⟨IdSet.ofList c.ids, []⟩ := by
  obtain ⟨r, restricted, exact, agreeing⟩ := h
  simp [narrowed_some restricted, agreeing, exact, Constraint.restrict, Compiled.ids, restricted]

theorem narrowed_eq_none_iff {target : Value} {c : Compiled} {k : Option Constraint} :
    narrowed table target k c = none ↔ k = none ∧ ∀ kind, ¬c.Restricts table kind target := by
  cases restricted : c.restriction with
  | none => simp [narrowed_none restricted, Compiled.Restricts, restricted]
  | some r =>
    rw [narrowed_some restricted]
    by_cases agreeing : (Constraints.targetOf table r.field).agrees target = true
    · simp [agreeing, Compiled.Restricts, restricted]
    · simp [agreeing, Compiled.Restricts, restricted]

theorem mem_narrowed {target : Value} {c : Compiled} (h : ¬c.Restricts table .exactly target)
    (k : Option Constraint) (id : String) :
    (id ∈ (startOf (narrowed table target k c)).allow ↔
      id ∈ (startOf k).allow ∨ c.Restricts table .enable target ∧ id ∈ c.ids) ∧
    (id ∈ (startOf (narrowed table target k c)).deny ↔
      id ∈ (startOf k).deny ∨ c.Restricts table .disable target ∧ id ∈ c.ids) := by
  cases restricted : c.restriction with
  | none => simp [narrowed_none restricted, Compiled.Restricts, restricted]
  | some r =>
    rw [narrowed_some restricted]
    by_cases agreeing : (Constraints.targetOf table r.field).agrees target = true
    · cases kind : r.kind with
      | exactly => exact absurd ⟨r, restricted, kind, agreeing⟩ h
      | enable =>
        simp [startOf, agreeing, kind, Constraint.restrict, Compiled.Restricts, Compiled.ids,
          restricted, IdSet.mem_union]
      | disable =>
        simp [startOf, agreeing, kind, Constraint.restrict, Compiled.Restricts, Compiled.ids,
          restricted, IdSet.mem_union]
    · simp [agreeing, Compiled.Restricts, restricted]

theorem foldl_narrowed_eq_none_iff {target : Value} {cs : List Compiled} {k : Option Constraint} :
    cs.foldl (narrowed table target) k = none ↔
      k = none ∧ ∀ c ∈ cs, ∀ kind, ¬c.Restricts table kind target := by
  induction cs generalizing k with
  | nil => simp
  | cons c rest ih =>
    rw [List.foldl_cons, ih, narrowed_eq_none_iff]
    simp only [List.forall_mem_cons, and_assoc]

theorem mem_foldl_narrowed {target : Value} {cs : List Compiled}
    (h : ∀ c ∈ cs, ¬c.Restricts table .exactly target) (k : Option Constraint) (id : String) :
    (id ∈ (startOf (cs.foldl (narrowed table target) k)).allow ↔
      id ∈ (startOf k).allow ∨ ∃ c ∈ cs, c.Restricts table .enable target ∧ id ∈ c.ids) ∧
    (id ∈ (startOf (cs.foldl (narrowed table target) k)).deny ↔
      id ∈ (startOf k).deny ∨ ∃ c ∈ cs, c.Restricts table .disable target ∧ id ∈ c.ids) := by
  induction cs generalizing k with
  | nil => simp
  | cons c rest ih =>
    obtain ⟨here, others⟩ := List.forall_mem_cons.mp h
    obtain ⟨allow, deny⟩ := ih others (narrowed table target k c)
    obtain ⟨allowHere, denyHere⟩ := mem_narrowed here k id
    rw [List.foldl_cons, allow, deny, allowHere, denyHere]
    simp only [List.mem_cons, exists_eq_or_imp, or_assoc, and_self]

/-- The last item of a list with a property, and those behind it. -/
theorem exists_last {α : Type} {p : α → Prop} {xs : List α} (h : ∃ x ∈ xs, p x) :
    ∃ before x after, xs = before ++ x :: after ∧ p x ∧ ∀ y ∈ after, ¬p y := by
  induction xs with
  | nil => simp at h
  | cons first rest ih =>
    by_cases later : ∃ x ∈ rest, p x
    · obtain ⟨before, x, after, whole, has, last⟩ := ih later
      exact ⟨first :: before, x, after, by rw [whole, List.cons_append], has, last⟩
    · have has : p first := by
        obtain ⟨x, member, has⟩ := h
        rcases List.mem_cons.mp member with rfl | member
        · exact has
        · exact absurd ⟨x, member, has⟩ later
      exact ⟨[], first, rest, rfl, has, fun y member with_ => later ⟨y, member, with_⟩⟩

/-- The rule has a property, and no rule that has it is ranked higher. -/
def Highest (p : Compiled → Prop) (c : Compiled) : Prop := p c ∧ ∀ d, p d → d.rank ≤ c.rank

theorem mem_after_iff {before after : List Compiled} {c : Compiled}
    (ranked : (before ++ c :: after).Pairwise (fun a b => a.rank < b.rank)) (d : Compiled) :
    d ∈ after ↔ d ∈ before ++ c :: after ∧ c.rank < d.rank := by
  obtain ⟨_, behind, across⟩ := List.pairwise_append.mp ranked
  have above := (List.pairwise_cons.mp behind).1
  constructor
  · intro member
    exact ⟨by simp [member], above d member⟩
  · rintro ⟨member, higher⟩
    rcases List.mem_append.mp member with earlier | member
    · exact absurd (across d earlier c (by simp)) (lt_asymm higher)
    · rcases List.mem_cons.mp member with rfl | later
      · exact absurd higher (lt_irrefl _)
      · exact later

theorem highest_of_last {before after : List Compiled} {c : Compiled} {p : Compiled → Prop}
    (ranked : (before ++ c :: after).Pairwise (fun a b => a.rank < b.rank)) (has : p c)
    (last : ∀ d ∈ after, ¬p d) : Highest (fun d => d ∈ before ++ c :: after ∧ p d) c := by
  refine ⟨⟨by simp, has⟩, fun d ⟨member, also⟩ => ?_⟩
  by_contra higher
  exact last d ((mem_after_iff ranked d).mpr ⟨member, not_le.mp higher⟩) also

section

variable {ranked : List Compiled} (sorted : ranked.Pairwise (fun a b => a.rank < b.rank))

include sorted

theorem held_of_ranked (table : Option FieldTable) (slot : Overrides.Slot) :
    (∃ c a, Highest (fun d => d ∈ ranked ∧
        (Overrides.last? table slot d.assignments).isSome = true) c ∧
      Overrides.last? table slot c.assignments = some a ∧
      (ranked.foldl (Overrides.assignAll table) Overrides.empty).held slot =
        some (slot.form a.2)) ∨
    (∀ d ∈ ranked, Overrides.last? table slot d.assignments = none) ∧
      (ranked.foldl (Overrides.assignAll table) Overrides.empty).held slot = none := by
  by_cases assigned : ∃ d ∈ ranked, (Overrides.last? table slot d.assignments).isSome = true
  · obtain ⟨before, c, after, rfl, has, last⟩ := exists_last assigned
    obtain ⟨a, found⟩ := Option.isSome_iff_exists.mp has
    have silent : ∀ d ∈ after, Overrides.last? table slot d.assignments = none := by
      intro d member
      exact Option.not_isSome_iff_eq_none.mp (last d member)
    refine Or.inl ⟨c, a, highest_of_last sorted has last, found, ?_⟩
    rw [List.foldl_append, List.foldl_cons, Overrides.held_foldl_assignAll silent,
      Overrides.held_assignAll found]
  · have silent : ∀ d ∈ ranked, Overrides.last? table slot d.assignments = none := by
      intro d member
      exact Option.not_isSome_iff_eq_none.mp (fun has => assigned ⟨d, member, has⟩)
    refine Or.inr ⟨silent, ?_⟩
    rw [Overrides.held_foldl_assignAll silent]
    cases slot <;> rfl

theorem constraint_of_ranked {target : Value} {k : Constraint}
    (h : ranked.foldl (narrowed table target) none = some k) :
    (∃ s, Highest (fun d => d ∈ ranked ∧ d.Restricts table .exactly target) s ∧ ∀ id,
      (id ∈ k.allow ↔ id ∈ s.ids ∨ ∃ c ∈ ranked, s.rank < c.rank ∧
        c.Restricts table .enable target ∧ id ∈ c.ids) ∧
      (id ∈ k.deny ↔ ∃ c ∈ ranked, s.rank < c.rank ∧
        c.Restricts table .disable target ∧ id ∈ c.ids)) ∨
    (∀ d ∈ ranked, ¬d.Restricts table .exactly target) ∧ ∀ id,
      (id ∈ k.allow ↔ ∃ c ∈ ranked, c.Restricts table .enable target ∧ id ∈ c.ids) ∧
      (id ∈ k.deny ↔ ∃ c ∈ ranked, c.Restricts table .disable target ∧ id ∈ c.ids) := by
  by_cases exact : ∃ d ∈ ranked, d.Restricts table .exactly target
  · -- What stands before the last exact restriction is forgotten, so only the rules behind it
    -- are left to look at, and those are the higher ones.
    obtain ⟨before, s, after, rfl, has, last⟩ := exists_last exact
    refine Or.inl ⟨s, highest_of_last sorted has last, fun id => ?_⟩
    rw [List.foldl_append, List.foldl_cons, narrowed_of_exactly has] at h
    have members := mem_foldl_narrowed last (some ⟨IdSet.ofList s.ids, []⟩) id
    simp only [h, startOf, Option.getD_some, IdSet.mem_ofList, List.not_mem_nil, false_or,
      mem_after_iff sorted, and_assoc] at members
    exact members
  · have none_exact : ∀ d ∈ ranked, ¬d.Restricts table .exactly target :=
      fun d member has => exact ⟨d, member, has⟩
    refine Or.inr ⟨none_exact, fun id => ?_⟩
    have members := mem_foldl_narrowed none_exact none id
    rw [h] at members
    simpa [startOf] using members

end

/-- Each slot holds the last assignment of the highest rule that assigns it. A
target has the exact values of the highest rule that restricts it to such, and
what higher rules allow and take away; without such a rule all of them count. -/
theorem evaluate_merges_by_rank (rules : List Rule) (context : Context)
    (table : Option FieldTable) (outcome : Outcome)
    (h : evaluate [] rules context table = .ok outcome) :
    Overrides.SlotNames table ∧
    (∀ slot : Overrides.Slot,
      (∃ c a, Highest (fun d => Matched rules context d ∧
          (Overrides.last? table slot d.assignments).isSome = true) c ∧
        Overrides.last? table slot c.assignments = some a ∧
        outcome.overrides.held slot = some (slot.form a.2)) ∨
      (∀ d, Matched rules context d → Overrides.last? table slot d.assignments = none) ∧
        outcome.overrides.held slot = none) ∧
    (∀ target, Constraints.get? outcome.constraints target = none ↔
      ∀ d, Matched rules context d → ∀ kind, ¬d.Restricts table kind target) ∧
    ∀ target k, Constraints.get? outcome.constraints target = some k →
      (∃ s, Highest (fun d => Matched rules context d ∧ d.Restricts table .exactly target) s ∧
        ∀ id,
          (id ∈ k.allow ↔ id ∈ s.ids ∨ ∃ c, Matched rules context c ∧ s.rank < c.rank ∧
            c.Restricts table .enable target ∧ id ∈ c.ids) ∧
          (id ∈ k.deny ↔ ∃ c, Matched rules context c ∧ s.rank < c.rank ∧
            c.Restricts table .disable target ∧ id ∈ c.ids)) ∨
      (∀ d, Matched rules context d → ¬d.Restricts table .exactly target) ∧
        ∀ id,
          (id ∈ k.allow ↔ ∃ c, Matched rules context c ∧
            c.Restricts table .enable target ∧ id ∈ c.ids) ∧
          (id ∈ k.deny ↔ ∃ c, Matched rules context c ∧
            c.Restricts table .disable target ∧ id ∈ c.ids) := by
  obtain ⟨ranked, sorted, members, merged⟩ := exists_ranked h
  obtain ⟨overrides, constraints⟩ := merge_eq_ok merged (fun e member => by simp at member)
  refine ⟨Overrides.slotNames table, fun slot => ?_, fun target => ?_, fun target k found => ?_⟩
  · have held := held_of_ranked sorted table slot
    rw [← overrides] at held
    simpa only [members] using held
  · rw [constraints, foldl_narrowed_eq_none_iff]
    simp only [members, Constraints.get?, true_and]
  · rw [constraints] at found
    simpa only [members] using constraint_of_ranked sorted found

def sizeRule (priority : Value) (code : String) (kind : RestrictionKind) (size : String) :
    Rule where
  id := .null
  name := .null
  priority := priority
  active := .bool true
  condition := .object []
  actions := .object [("sku_code", .text code)]
  constraintKind := .text kind.name
  constraintField := .text "sizes"
  constraintValue := .text size

def sizeRules : List Rule :=
  [sizeRule (.float (.finite false 2)) "A" .exactly "small",
    sizeRule (.float (.finite false 2)) "B" .enable "large", sizeRule .null "C" .disable "small"]

def sizeOutcome : Outcome :=
  ⟨sizeRules, ⟨some "B", none, [], []⟩, [(.text "sizes", ⟨["small", "large"], []⟩)], []⟩

theorem later_equal_rule_wins :
    evaluate [] sizeRules [] none = .ok sizeOutcome ∧
      sizeOutcome.overrides.held .product = some (.text "B") ∧
      (∃ c, Highest (fun d => Matched sizeRules [] d ∧
        (Overrides.last? none .product d.assignments).isSome = true) c) ∧
      ∃ s, Highest (fun d => Matched sizeRules [] d ∧
        d.Restricts none .exactly (.text "sizes")) s := by
  have merged := evaluate_merges_by_rank sizeRules [] none sizeOutcome rfl
  refine ⟨rfl, rfl, ?_, ?_⟩
  · rcases merged.2.1 .product with ⟨c, _, highest, _⟩ | ⟨_, unset⟩
    · exact ⟨c, highest⟩
    · cases unset
  · rcases merged.2.2.2 (.text "sizes") _ rfl with ⟨s, highest, _⟩ | ⟨inexact, _⟩
    · exact ⟨s, highest⟩
    · let first : Compiled := ⟨sizeRule (.float (.finite false 2)) "A" .exactly "small", .all [],
        [("sku_code", .text "A")], some ⟨.exactly, .text "sizes", .text "small"⟩, 0,
        .finite false 2⟩
      exact absurd ⟨_, rfl, rfl, rfl⟩ (inexact first ⟨rfl, rfl, rfl, rfl⟩)

end Rule

end MadeToOrder
