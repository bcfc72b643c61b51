import MadeToOrder.Proofs.Configuration.Replay
import MadeToOrder.Proofs.Selection.Reordered
import MadeToOrder.Proofs.Session.Failure

/-!
# Presetting first options

A reset that presets options first computes the configuration of the line alone, and chooses
for each required field the first option that is available there. Then it sets all of them at
once, and the adjusting loop settles what does not go together. The loop gives a field another
value or none and never adds one. So a required field is chosen in the end if there was a first
option for it and no turn dropped it, even where options for it come back later.
-/

set_option autoImplicit false

namespace MadeToOrder

theorem Keyed.nodup_keys_putAll {α : Type} {m : Keyed α} (distinct : (keys m).Nodup)
    (entries : Keyed α) : (keys (putAll m entries)).Nodup := by
  induction entries generalizing m with
  | nil => exact distinct
  | cons e rest ih => exact ih (nodup_keys_put distinct _ _)

namespace Selection

theorem get?_normalize (table : FieldTable) {selection : Selection}
    (distinct : (Keyed.keys selection).Nodup) (field : String) :
    Keyed.get? (normalize table selection) field = (Keyed.get? selection field).bind (fun v =>
      if v.isUnset then none else some (normalValue (takesSeveral table field) v)) := by
  induction selection with
  | nil => rfl
  | cons e rest ih =>
    obtain ⟨other, v⟩ := e
    obtain ⟨fresh, distinct⟩ := List.nodup_cons.mp distinct
    rw [normalize_cons]
    by_cases same : other = field
    · subst same
      have later : Keyed.get? (normalize table rest) other = none := by
        rw [ih distinct, Keyed.get?_eq_none fresh, Option.bind_none]
      by_cases unset : v.isUnset = true <;> simp [unset, Keyed.get?, later]
    · by_cases unset : v.isUnset = true <;> simp [unset, Keyed.get?, same, ih distinct]

end Selection

namespace Configuration

variable {snapshot : Snapshot} {trigger : Trigger} {line : Value} {stage last : Stage}
  {events : List Event}

/-- A turn keeps every field but one that it gives no value. -/
theorem has_next?_iff {later : Stage} {event : Event}
    (h : next? snapshot trigger line stage = .ok (some (later, event))) (field : String) :
    Keyed.has later.selection field = true ↔
      Keyed.has stage.selection field = true ∧ ∀ old, event ≠ .adjusted field old .null := by
  obtain ⟨p, spec, bad, v, _, invalid, _, rfl, rfl⟩ := next?_eq_some h
  have held := has_of_firstInvalid? invalid
  unfold assign
  by_cases same : field = spec.field
  · subst same
    cases v <;> simp [Value.isNull, Keyed.has_erase, Keyed.has_put, held]
  · split <;> simp [Keyed.has_erase, Keyed.has_put, same, Ne.symm same]

theorem has_run_iff (run : Run snapshot trigger line stage events last) (field : String) :
    Keyed.has last.selection field = true ↔
      Keyed.has stage.selection field = true ∧ ∀ old, .adjusted field old .null ∉ events := by
  induction run with
  | stay stage => simp
  | turn first rest ih =>
    rw [ih, has_next?_iff first, and_assoc]
    simp only [List.mem_cons, not_or, forall_and, ne_eq, eq_comm]

theorem isAdjustment_of_run (run : Run snapshot trigger line stage events last) :
    ∀ event ∈ events, event.isAdjustment = true := by
  induction run with
  | stay stage => exact nofun
  | turn first rest ih =>
    obtain ⟨_, _, _, _, _, _, _, _, rfl⟩ := next?_eq_some first
    exact List.forall_mem_cons.mpr ⟨rfl, ih⟩

/-- Where nothing but the line is chosen there is nothing to adjust. -/
theorem run_of_line (run : Run snapshot trigger line stage events last)
    (bare : ∀ spec ∈ snapshot.table.specs, spec.isLine = false →
      Keyed.has stage.selection spec.field = false) : events = [] ∧ last = stage := by
  cases run with
  | stay => exact ⟨rfl, rfl⟩
  | turn first _ =>
    obtain ⟨p, spec, bad, v, _, invalid, _⟩ := next?_eq_some first
    obtain ⟨member, notLine, _⟩ := firstInvalid?_eq_some invalid
    have held := has_of_firstInvalid? invalid
    rw [bare spec member notLine] at held
    cases held

theorem firstAvailable_eq_some {a : Availability} {collection id : String} :
    firstAvailable snapshot a collection = .ok (some id) ↔
      FirstOf snapshot (a.availableIn collection) collection id := by
  constructor
  · intro h
    obtain ⟨options, shown, found⟩ := bind_eq_ok.mp h
    exact firstOf_of_find? shown (Except.ok.inj found)
  · rintro ⟨earlier, o, later, shown, rfl, listed, others⟩
    refine bind_eq_ok.mpr ⟨_, shown, congrArg Except.ok ?_⟩
    rw [List.find?_map, List.find?_append, List.find?_eq_none.mpr (by simpa using others),
      Option.none_or, List.find?_cons_of_pos (by simpa using listed), Option.map_some]

end Configuration

namespace Session

open MadeToOrder.Configuration (FirstOf Run Explained firstAvailable lineOf? recompute)
open Selection (IsNormal normalize normalValue replay takesSeveral)

variable {s : Session} {now : Moment} {state : State} {snapshot : Snapshot} {a : Availability}
  {specs : List FieldSpec} {presets : Selection} {lineSpec : FieldSpec} {line : Value}

theorem keys_firstOptions (h : firstOptions snapshot a specs = .ok presets) :
    (Keyed.keys presets).Sublist
      ((specs.filter fun spec => spec.required && !spec.isLine).map FieldSpec.field) := by
  induction specs generalizing presets with
  | nil =>
    obtain rfl := Except.ok.inj h
    exact .slnil
  | cons spec rest ih =>
    rw [firstOptions] at h
    split at h
    · rename_i passed
      rw [List.filter_cons_of_neg (by simpa [or_iff_not_imp_left] using passed)]
      exact ih h
    · rename_i taken
      rw [List.filter_cons_of_pos (by simpa using taken), List.map_cons]
      obtain ⟨first, _, h⟩ := bind_eq_ok.mp h
      obtain ⟨others, later, h⟩ := bind_eq_ok.mp h
      split at h
      · obtain rfl := Except.ok.inj h
        exact (ih later).cons_cons _
      · obtain rfl := Except.ok.inj h
        exact (ih later).cons _

theorem get?_firstOptions (h : firstOptions snapshot a specs = .ok presets)
    (distinct : (specs.map FieldSpec.field).Nodup) {spec : FieldSpec} (member : spec ∈ specs)
    (required : spec.required = true) (notLine : spec.isLine = false) :
    ∃ first, firstAvailable snapshot a spec.collection = .ok first ∧
      Keyed.get? presets spec.field = first.map .text := by
  induction specs generalizing presets with
  | nil => cases member
  | cons other rest ih =>
    obtain ⟨fresh, distinct⟩ := List.nodup_cons.mp distinct
    rw [firstOptions] at h
    rcases List.mem_cons.mp member with rfl | later
    · rw [required, notLine] at h
      obtain ⟨first, found, h⟩ := bind_eq_ok.mp h
      obtain ⟨others, behind, h⟩ := bind_eq_ok.mp h
      refine ⟨first, found, ?_⟩
      cases first with
      | some id =>
        obtain rfl := Except.ok.inj h
        simp [Keyed.get?]
      | none =>
        obtain rfl := Except.ok.inj h
        apply Keyed.get?_eq_none
        intro known
        have listed := (keys_firstOptions behind).subset known
        exact fresh ((List.filter_sublist.map FieldSpec.field).subset listed)
    · have apart : other.field ≠ spec.field := fun same =>
        fresh (same ▸ List.mem_map_of_mem later)
      split at h
      · exact ih h distinct later
      · obtain ⟨first, _, h⟩ := bind_eq_ok.mp h
        obtain ⟨others, behind, h⟩ := bind_eq_ok.mp h
        obtain ⟨own, found, chosen⟩ := ih behind distinct later
        refine ⟨own, found, ?_⟩
        split at h
        · obtain rfl := Except.ok.inj h
          simpa [Keyed.get?, apart] using chosen
        · obtain rfl := Except.ok.inj h
          exact chosen

theorem apply_eq_ok {selection : Selection} {leading : List Event}
    (h : (s.apply selection leading now).answer = .ok state) :
    ∃ events, recompute selection s.snapshot s.settings = .ok (state, events) ∧
      s.apply selection leading now =
        ⟨{ s with state := state, lastActivity := now }, leading ++ events, .ok state⟩ := by
  unfold apply at h ⊢
  cases computed : recompute selection s.snapshot s.settings with
  | error fault =>
    rw [computed] at h
    cases h
  | ok r =>
    obtain ⟨after, events⟩ := r
    rw [computed] at h
    obtain rfl := Except.ok.inj h
    exact ⟨events, rfl, rfl⟩

/-- An update that answers has computed the changed selection. -/
theorem update_eq_ok {changes : Selection} (h : (s.update changes now).answer = .ok state) :
    ∃ events, recompute (Keyed.putAll s.selection changes) s.snapshot s.settings =
        .ok (state, events) ∧
      (s.update changes now).events = .changed changes :: events := by
  unfold update at h ⊢
  cases checked : s.checkLine changes with
  | error fault =>
    rw [checked] at h
    cases h
  | ok known =>
    rw [checked] at h
    obtain ⟨events, computed, ran⟩ := apply_eq_ok h
    exact ⟨events, computed, by rw [ran]; rfl⟩

def LineSet (s : Session) : Prop := ∀ line, s.state.line = some line → line.isUnset = false

theorem isUnset_of_recompute {settings : Settings} {selection : Selection} {events : List Event}
    (h : recompute selection snapshot settings = .ok (state, events))
    (lined : state.line = some line) : line.isUnset = false := by
  rcases Configuration.recompute_eq_ok h with ⟨rfl, _⟩ | ⟨other, _, _, found, _, _, rfl, _⟩
  · cases lined
  · obtain rfl := Option.some.inj lined
    obtain ⟨spec, _, chosen⟩ := Option.bind_eq_some_iff.mp found
    exact (Selection.isNormal_of_get? (Selection.normal_normalize _ _) chosen).1

theorem LineSet.apply (h : s.LineSet) (selection : Selection) (leading : List Event) :
    (s.apply selection leading now).session.LineSet := by
  unfold Session.apply
  split
  · exact h
  · rename_i computed
    exact fun _ => isUnset_of_recompute computed

theorem LineSet.update (h : s.LineSet) (changes : Selection) :
    (s.update changes now).session.LineSet := by
  unfold Session.update
  split
  · exact h
  · exact h.apply _ _

theorem LineSet.reset (h : s.LineSet) (useFirst : Bool) :
    (s.reset useFirst now).session.LineSet := by
  have cleared : (s.apply s.lineOnly [.cleared] now).session.LineSet := h.apply _ _
  unfold Session.reset Ran.andThen
  split
  · exact cleared
  · dsimp only
    split
    · unfold preset
      split
      · exact cleared
      · split
        · exact cleared
        · exact cleared
        · exact cleared.update _
    · exact cleared

theorem LineSet.load (h : s.LineSet) (sku : Value) : (s.load sku now).session.LineSet := by
  unfold Session.load
  split
  · exact h
  · exact h.apply _ _

theorem LineSet.refreshWithin (h : s.LineSet) (supply : Supply) (limit : Value) (asOf : String) :
    (s.refreshWithin supply limit asOf now).2.session.LineSet := by
  unfold Session.refreshWithin
  split
  · exact h
  · rename_i refreshed _
    exact LineSet.apply (s := { s with snapshot := refreshed.snapshot }) h _ _

/-- Whatever a session went through, its line is a choice. -/
theorem lineSet_of_reachable (h : Reachable s) : s.LineSet := by
  induction h with
  | start _ started =>
    obtain ⟨selection, _, started⟩ := bind_eq_ok.mp started
    obtain ⟨⟨state, events⟩, computed, started⟩ := bind_eq_ok.mp started
    obtain rfl := Except.ok.inj started
    exact fun _ => isUnset_of_recompute computed
  | perform _ supply asOf now op ih =>
    cases op with
    | set field v => exact ih.update _
    | update changes => exact ih.update changes
    | reset useFirst => exact ih.reset useFirst
    | load sku => exact ih.load sku
    | refresh limit => exact ih.refreshWithin supply limit asOf
  | subscribe _ _ ih => exact ih
  | unsubscribe _ _ ih => exact ih

/-- A reset that presets options computes the line alone, and then sets the first options that
it finds there, if there are any. -/
theorem reset_eq_ok (h : (s.reset true now).answer = .ok state) :
    ∃ bare events, recompute s.lineOnly s.snapshot s.settings = .ok (bare, events) ∧
      (s.reset false now).answer = .ok bare ∧
      ∀ c, bare.configured = some c → ∃ presets,
        firstOptions s.snapshot c.availability s.snapshot.table.specs = .ok presets ∧
        ((presets = [] ∧ state = bare ∧ (s.reset true now).events = .cleared :: events) ∨
          ∃ later, recompute (Keyed.putAll bare.selection presets) s.snapshot s.settings =
              .ok (state, later) ∧
            (s.reset true now).events = .cleared :: events ++ .changed presets :: later) := by
  obtain ⟨bare, cleared⟩ : ∃ bare, (s.apply s.lineOnly [.cleared] now).answer = .ok bare := by
    unfold reset Ran.andThen at h
    split at h
    · cases h
    · rename_i bare cleared
      exact ⟨bare, cleared⟩
  obtain ⟨events, computed, ran⟩ := apply_eq_ok cleared
  refine ⟨bare, events, computed, by rw [reset, ran]; rfl, fun c configured => ?_⟩
  rw [reset, ran] at h ⊢
  simp only [Ran.andThen, if_true, preset, configured] at h ⊢
  cases found : firstOptions s.snapshot c.availability s.snapshot.table.specs with
  | error fault =>
    rw [found] at h
    cases h
  | ok presets =>
    rw [found] at h
    refine ⟨presets, rfl, ?_⟩
    cases presets with
    | nil =>
      obtain rfl := Except.ok.inj h
      exact Or.inl ⟨rfl, rfl, by simp⟩
    | cons first rest =>
      obtain ⟨later, recomputed, told⟩ := update_eq_ok h
      exact Or.inr ⟨later, recomputed, congrArg ([.cleared] ++ events ++ ·) told⟩

/-- What is computed has a line if there is one, and comes out of a run of the loop. -/
theorem exists_run_of_recompute {settings : Settings} {selection : Selection}
    {events : List Event} (h : recompute selection snapshot settings = .ok (state, events))
    (lined : lineOf? snapshot.table (normalize snapshot.table selection) = some line) :
    state.line = some line ∧ (∃ c, state.configured = some c) ∧
      ∃ last, Run snapshot settings.trigger line (Configuration.start snapshot selection)
        (events.filter Event.isAdjustment) last ∧ state.selection = last.selection := by
  rw [Configuration.recompute_eq_configure, Configuration.configure, lined] at h
  obtain ⟨settled, ran, h⟩ := bind_eq_ok.mp h
  obtain ⟨sku, _, h⟩ := bind_eq_ok.mp h
  obtain ⟨rfl, rfl⟩ := Prod.mk.inj (Except.ok.inj h)
  obtain ⟨last, run, ends, _⟩ := Configuration.exists_run_of_settle
    (s := Configuration.start snapshot selection) (Nat.zero_add _) ran
  refine ⟨rfl, ⟨_, rfl⟩, last, ?_, ends⟩
  rw [List.filter_append, Configuration.filter_closingEvents, List.append_nil,
    List.filter_eq_self.mpr (Configuration.isAdjustment_of_run run)]
  exact run

theorem field_ne_of_notLine {table : FieldTable} (row : table.lineSpec? = some lineSpec)
    {spec : FieldSpec} (member : spec ∈ table.specs) (notLine : spec.isLine = false) :
    spec.field ≠ lineSpec.field := by
  intro same
  obtain ⟨known, named⟩ := table.byCollection?_spec row
  obtain rfl := table.eq_of_field_eq member known same
  simp [FieldSpec.isLine, named] at notLine

/-- A line alone is its own configuration. -/
theorem recompute_of_line {settings : Settings} {events : List Event}
    (row : snapshot.table.lineSpec? = some lineSpec) (set : line.isUnset = false)
    (h : recompute [(lineSpec.field, line)] snapshot settings = .ok (state, events)) :
    ∃ v, state.selection = [(lineSpec.field, v)] ∧ state.line = some v ∧
      IsNormal snapshot.table lineSpec.field v ∧ (∃ c, state.configured = some c) ∧
      events.filter Event.isAdjustment = [] := by
  have alone : normalize snapshot.table [(lineSpec.field, line)] =
      [(lineSpec.field, normalValue (takesSeveral snapshot.table lineSpec.field) line)] := by
    rw [Selection.normalize_cons, set, if_neg Bool.false_ne_true, Selection.normalize_nil]
  have lined : lineOf? snapshot.table (normalize snapshot.table [(lineSpec.field, line)]) =
      some (normalValue (takesSeveral snapshot.table lineSpec.field) line) := by
    simp [lineOf?, row, alone, Keyed.get?]
  obtain ⟨hasLine, configured, last, run, ends⟩ := exists_run_of_recompute h lined
  have bare : ∀ spec ∈ snapshot.table.specs, spec.isLine = false →
      Keyed.has (Configuration.start snapshot [(lineSpec.field, line)]).selection spec.field =
        false := by
    intro spec member notLine
    have other := field_ne_of_notLine row member notLine
    simp [Configuration.start, alone, Keyed.has, Keyed.get?, other.symm]
  obtain ⟨quiet, rfl⟩ := Configuration.run_of_line run bare
  have normal := Selection.normal_normalize snapshot.table [(lineSpec.field, line)]
  rw [alone] at normal
  exact ⟨_, ends.trans alone, hasLine, normal _ List.mem_cons_self, configured, quiet⟩

/-- The normal form of a line with presets. -/
theorem get?_presets {v : Value}
    (found : firstOptions snapshot a snapshot.table.specs = .ok presets) (field : String) :
    Keyed.get? (normalize snapshot.table (Keyed.putAll [(lineSpec.field, v)] presets)) field =
      ((Keyed.get? presets field).or (Keyed.get? [(lineSpec.field, v)] field)).bind (fun v =>
        if v.isUnset then none else some (normalValue (takesSeveral snapshot.table field) v)) := by
  have apart : (Keyed.keys presets).Nodup := snapshot.table.fields_nodup.sublist
    ((keys_firstOptions found).trans (List.filter_sublist.map FieldSpec.field))
  have alone : (Keyed.keys [(lineSpec.field, v)]).Nodup := List.nodup_singleton _
  rw [Selection.get?_normalize _ (Keyed.nodup_keys_putAll alone presets),
    Keyed.get?_putAll _ apart]

/-- Presets leave the line as it is. -/
theorem lineOf?_presets {v : Value} (row : snapshot.table.lineSpec? = some lineSpec)
    (found : firstOptions snapshot a snapshot.table.specs = .ok presets)
    (normal : IsNormal snapshot.table lineSpec.field v) :
    lineOf? snapshot.table
      (normalize snapshot.table (Keyed.putAll [(lineSpec.field, v)] presets)) = some v := by
  have unset : Keyed.get? presets lineSpec.field = none := by
    apply Keyed.get?_eq_none
    intro known
    obtain ⟨spec, taken, same⟩ := List.mem_map.mp ((keys_firstOptions found).subset known)
    obtain ⟨member, preset⟩ := List.mem_filter.mp taken
    have notLine : spec.isLine = false := by simpa using (Bool.and_eq_true_iff.mp preset).2
    exact field_ne_of_notLine row member notLine same
  rw [lineOf?, row, Option.bind_some, get?_presets found, unset, Option.none_or]
  simp [Keyed.get?, normal.1, normal.2]

/-- A field is preset if there is a first option that counts as a choice. -/
theorem has_presets_iff {v : Value} (row : snapshot.table.lineSpec? = some lineSpec)
    (found : firstOptions snapshot a snapshot.table.specs = .ok presets)
    {spec : FieldSpec} (member : spec ∈ snapshot.table.specs)
    (required : spec.required = true) (notLine : spec.isLine = false) :
    Keyed.has (normalize snapshot.table (Keyed.putAll [(lineSpec.field, v)] presets)) spec.field =
        true ↔
      ∃ id, id ≠ "" ∧ FirstOf snapshot (a.availableIn spec.collection) spec.collection id := by
  obtain ⟨first, available, chosen⟩ :=
    get?_firstOptions found snapshot.table.fields_nodup member required notLine
  have other := field_ne_of_notLine row member notLine
  simp only [← Configuration.firstAvailable_eq_some, available, Except.ok.injEq]
  rw [Keyed.has, get?_presets found, chosen]
  cases first with
  | none => simp [Keyed.get?, other.symm]
  | some id => by_cases empty : id = "" <;> simp [Value.isUnset, empty]

/-- What a reset that presets options goes through: the configuration of the line alone, the
first options there, and a run of the adjusting loop from all of them. -/
theorem exists_run_of_reset (row : s.snapshot.table.lineSpec? = some lineSpec)
    (lined : s.state.line = some line) (set : line.isUnset = false)
    (h : (s.reset true now).answer = .ok state) :
    ∃ bare c presets last v, (s.reset false now).answer = .ok bare ∧
      bare.selection = [(lineSpec.field, v)] ∧ bare.configured = some c ∧
      firstOptions s.snapshot c.availability s.snapshot.table.specs = .ok presets ∧
      state.line = some v ∧
      Run s.snapshot s.settings.trigger v
        (Configuration.start s.snapshot (Keyed.putAll bare.selection presets))
        ((s.reset true now).events.filter Event.isAdjustment) last ∧
      state.selection = last.selection := by
  obtain ⟨bare, events, computed, plain, next⟩ := reset_eq_ok h
  have only : s.lineOnly = [(lineSpec.field, line)] := by simp only [lineOnly, row, lined]
  rw [only] at computed
  obtain ⟨v, alone, hasLine, normal, ⟨c, configured⟩, quiet⟩ := recompute_of_line row set computed
  obtain ⟨presets, found, ⟨rfl, rfl, told⟩ | ⟨later, recomputed, told⟩⟩ := next c configured
  · have kept : normalize s.snapshot.table state.selection = state.selection :=
      Selection.normalize_eq_self (by rw [alone]; exact List.forall_mem_singleton.mpr normal)
    have silent : (s.reset true now).events.filter Event.isAdjustment = [] := by
      rw [told]
      exact quiet
    refine ⟨state, c, [], Configuration.start s.snapshot state.selection, v, plain, alone,
      configured, found, hasLine, ?_, kept.symm⟩
    rw [silent]
    exact .stay _
  · have heard : (s.reset true now).events.filter Event.isAdjustment =
        later.filter Event.isAdjustment := by
      rw [told, List.filter_append]
      exact congrArg (· ++ _) quiet
    have presetLine := lineOf?_presets row found normal
    rw [← alone] at presetLine
    obtain ⟨hasLine, _, last, run, ends⟩ := exists_run_of_recompute recomputed presetLine
    exact ⟨bare, c, presets, last, v, plain, alone, configured, found, hasLine, heard ▸ run, ends⟩

/-- After a reset that presets options a required field is chosen exactly if its collection had
a first option for the line alone, whose id is not empty, and no adjustment dropped the field.
Each adjustment that did has its reason in the options of its own moment: none to show, none of
the chosen ones, or no turn left for another try. -/
theorem reset_presets_first_options (row : s.snapshot.table.lineSpec? = some lineSpec)
    (lined : s.state.line = some line) (set : line.isUnset = false)
    (h : (s.reset true now).answer = .ok state) :
    ∃ bare c presets v, (s.reset false now).answer = .ok bare ∧ bare.configured = some c ∧
      firstOptions s.snapshot c.availability s.snapshot.table.specs = .ok presets ∧
      state.line = some v ∧
      ∀ spec ∈ s.snapshot.table.specs, spec.required = true → spec.isLine = false →
        (Keyed.has state.selection spec.field = true ↔
          (∃ id, id ≠ "" ∧
            FirstOf s.snapshot (c.availability.availableIn spec.collection) spec.collection id) ∧
          ∀ old, .adjusted spec.field old .null ∉ (s.reset true now).events) ∧
        ∀ earlier old later, (s.reset true now).events.filter Event.isAdjustment =
            earlier ++ .adjusted spec.field old .null :: later →
          Explained s.snapshot s.settings.trigger v earlier.length
            (replay (normalize s.snapshot.table (Keyed.putAll bare.selection presets)) earlier)
            (.adjusted spec.field old .null) := by
  obtain ⟨bare, c, presets, last, v, plain, alone, configured, found, hasLine, run, ends⟩ :=
    exists_run_of_reset row lined set h
  refine ⟨bare, c, presets, v, plain, configured, found, hasLine, ?_⟩
  intro spec member required notLine
  have preset := has_presets_iff (v := v) row found member required notLine
  rw [← alone] at preset
  constructor
  · rw [ends, Configuration.has_run_iff run, ← preset]
    simp only [List.mem_filter, Event.isAdjustment, and_true]
    rfl
  · intro earlier old later split
    obtain ⟨_, explained⟩ := Configuration.explained_of_run run
      (Selection.listed_normalize s.snapshot.table _)
    have there := explained earlier _ later split
    rw [Configuration.start, Nat.zero_add] at there
    exact there

/-- Every required field that has an available option in the end is chosen. -/
def Completes (s : Session) (now : Moment) : Prop :=
  ∀ state, (s.reset true now).answer = .ok state → ∀ c, state.configured = some c →
    ∀ spec ∈ s.snapshot.table.specs, spec.required = true → spec.isLine = false →
      c.availability.availableIn spec.collection ≠ [] →
        Keyed.has state.selection spec.field = true

def LeavesOpen (snapshot : Snapshot) : Prop :=
  ∃ s, start snapshot Settings.standard (.text "deco") 0 = .ok s ∧ ¬ s.Completes 1

theorem leavesOpen_of_lost {s : Session} {c : Configured} (spec : FieldSpec)
    (opened : start snapshot Settings.standard (.text "deco") 0 = .ok s)
    (ran : (s.reset true 1).answer = .ok state) (configured : state.configured = some c)
    (member : spec ∈ s.snapshot.table.specs) (required : spec.required = true)
    (notLine : spec.isLine = false) (offered : c.availability.availableIn spec.collection ≠ [])
    (lost : Keyed.has state.selection spec.field = false) : LeavesOpen snapshot := by
  refine ⟨s, opened, fun completes => ?_⟩
  have chosen := completes state ran c configured spec member required notLine offered
  rw [lost] at chosen
  cases chosen

def trimSpec : FieldSpec := ⟨"trims", "trim", "trim", "Trim", true, false, false⟩

def extraSpec : FieldSpec := ⟨"extras", "extra", "extra", "Extras", true, true, false⟩

def colorSpec : FieldSpec := ⟨"colors", "color", "color", "Color", true, false, false⟩

def kits (rules : List Rule) : Snapshot :=
  { Configuration.twoColors rules with
    table := ⟨[⟨"product_lines", "line", "line", "Line", true, false, false⟩, trimSpec, extraSpec,
      colorSpec], by decide, by decide, by decide⟩
    lines := [("deco", ⟨.text "deco", .null, .null, [("colors", "red"), ("colors", "blue"),
      ("trims", "black"), ("extras", "wifi"), ("extras", "gps")], .null⟩)]
    options := (Configuration.twoColors []).options ++ [
      ("trims", [("black", Configuration.plainOption "trims" "black")]),
      ("extras", [("wifi", Configuration.plainOption "extras" "wifi"),
        ("gps", Configuration.plainOption "extras" "gps")])] }

def withoutInBlue (field id : String) : Rule :=
  { Configuration.withdrawal "blue" with
    constraintField := .text field, constraintValue := .text id }

def trimInBlue : List Rule :=
  [{ withoutInBlue "trim" "black" with condition := .object [("line", .text "deco")] },
    { withoutInBlue "trim" "black" with constraintKind := .text "set_value" }]

def unnamedTrim : Snapshot :=
  { kits [] with
    lines := [("deco", ⟨.text "deco", .null, .null, [("trims", "")], .null⟩)]
    options := (kits []).options.take 2 ++ [
      ("trims", [("", Configuration.plainOption "trims" "")])] }

def rivals : Snapshot := kits [Configuration.withdrawal "red", Configuration.withdrawal "blue"]

def kitIn (color : String) : Selection :=
  [("line", .text "deco"), ("trim", .text "black"), ("extra", .list [.text "gps"]),
    ("color", .text color)]

theorem settle_rivals_blue (left : Nat) :
    Configuration.settle rivals Trigger.standard (.text "deco") (left + 1) (kitIn "blue") =
      (Configuration.settle rivals Trigger.standard (.text "deco") left (kitIn "red")).map
        (Configuration.Settled.after (.adjusted "color" (.text "blue") (.text "red"))) :=
  @Configuration.settle_of_replaced rivals Trigger.standard (.text "deco") left _ _ colorSpec _ _
    rfl rfl rfl

theorem settle_rivals_red (left : Nat) :
    Configuration.settle rivals Trigger.standard (.text "deco") (left + 1) (kitIn "red") =
      (Configuration.settle rivals Trigger.standard (.text "deco") left (kitIn "blue")).map
        (Configuration.Settled.after (.adjusted "color" (.text "red") (.text "blue"))) :=
  @Configuration.settle_of_replaced rivals Trigger.standard (.text "deco") left _ _ colorSpec _ _
    rfl rfl rfl

/-- The colors take turns until the budget is used up, and then there is none. -/
theorem settle_rivals : ∃ settled,
    Configuration.settle rivals Trigger.standard (.text "deco") (Configuration.budget rivals)
        (kitIn "blue") = .ok settled ∧
      Keyed.has settled.selection "color" = false ∧
      settled.pass.availability.availableIn "colors" ≠ [] ∧
      ∃ sku, Sku.build settled.selection settled.pass.outcome.overrides rivals.codeFields rivals
        Sku.Separators.standard = .ok sku := by
  have cleared : ∃ settled,
      Configuration.clear rivals Trigger.standard (.text "deco") (kitIn "blue") = .ok settled ∧
        Keyed.has settled.selection "color" = false ∧
        settled.pass.availability.availableIn "colors" ≠ [] ∧
        ∃ sku, Sku.build settled.selection settled.pass.outcome.overrides rivals.codeFields rivals
          Sku.Separators.standard = .ok sku := by
    rw [@Configuration.clear_of_invalid rivals Trigger.standard (.text "deco") (kitIn "blue") _
        colorSpec _ rfl rfl,
      Configuration.clear_of_valid rfl rfl]
    exact ⟨_, rfl, rfl, by decide, _, rfl⟩
  obtain ⟨settled, ran, lost, offered, built⟩ := cleared
  have turns : Configuration.budget rivals = 12 := rfl
  have late : Configuration.settle rivals Trigger.standard (.text "deco") 0 (kitIn "blue") =
      .ok settled := ran
  simp only [turns, settle_rivals_blue, settle_rivals_red, late, Except.map]
  refine ⟨_, rfl, ?_⟩
  simp only [Configuration.Settled.after]
  exact ⟨lost, offered, built⟩

theorem recompute_rivals (selection : Selection)
    (normal : normalize rivals.table selection = kitIn "blue") : ∃ state events c,
      recompute selection rivals Settings.standard = .ok (state, events) ∧
      state.configured = some c ∧ Keyed.has state.selection "color" = false ∧
      c.availability.availableIn "colors" ≠ [] := by
  obtain ⟨settled, ran, lost, offered, sku, built⟩ := settle_rivals
  have lined : lineOf? rivals.table (kitIn "blue") = some (.text "deco") := rfl
  rw [Configuration.recompute_eq_configure, normal, Configuration.configure, lined]
  exact ⟨_, _, _, bind_eq_ok.mpr ⟨settled, ran, bind_eq_ok.mpr ⟨sku, built, rfl⟩⟩, rfl, lost, offered⟩

theorem answer_reset {bare : State} {c : Configured} {events later : List Event}
    (computed : recompute s.lineOnly s.snapshot s.settings = .ok (bare, events))
    (configured : bare.configured = some c)
    (found : firstOptions s.snapshot c.availability s.snapshot.table.specs = .ok presets)
    (some : presets ≠ []) (checked : s.checkLine presets = .ok ())
    (recomputed : recompute (Keyed.putAll bare.selection presets) s.snapshot s.settings =
      .ok (state, later)) : (s.reset true now).answer = .ok state := by
  have known : ({ s with state := bare, lastActivity := now } : Session).checkLine presets =
      .ok () := checked
  cases presets with
  | nil => contradiction
  | cons first rest =>
    simp only [reset, apply, computed, Ran.andThen, if_true, preset, configured, found, update,
      known, selection, recomputed]

theorem leavesOpen_rivals : LeavesOpen rivals := by
  have started : ∃ s, start rivals Settings.standard (.text "deco") 0 = .ok s := ⟨_, rfl⟩
  obtain ⟨s, opened⟩ := started
  obtain ⟨state, events, c, recomputed, configured, lost, offered⟩ :=
    recompute_rivals [("line", .text "deco"), ("trim", .text "black"), ("extra", .text "gps"),
      ("color", .text "blue")] rfl
  refine leavesOpen_of_lost colorSpec opened ?_ configured ?_ rfl rfl offered lost
  · obtain rfl := Except.ok.inj opened
    exact answer_reset rfl rfl rfl (by simp) rfl recomputed
  · obtain rfl := Except.ok.inj opened
    decide

/-- The black trim is given up for blue, and then blue is not to be had. -/
theorem black_trim_is_dropped :
    ∃ s state bare c presets,
      start (kits [withoutInBlue "trim" "black", Configuration.withdrawal "blue"])
        Settings.standard (.text "deco") 0 = .ok s ∧
      s.snapshot.table.lineSpec? = some ⟨"product_lines", "line", "line", "Line", true, false,
        false⟩ ∧
      s.state.line = some (.text "deco") ∧ (Value.text "deco").isUnset = false ∧
      (s.reset true 1).answer = .ok state ∧ (s.reset false 1).answer = .ok bare ∧
      bare.configured = some c ∧
      firstOptions s.snapshot c.availability s.snapshot.table.specs = .ok presets ∧
      (Keyed.has state.selection "trim" = true ↔
        (∃ id, id ≠ "" ∧ FirstOf s.snapshot (c.availability.availableIn "trims") "trims" id) ∧
          ∀ old, .adjusted "trim" old .null ∉ (s.reset true 1).events) ∧
      state.selection =
        [("line", .text "deco"), ("extra", .list [.text "gps"]), ("color", .text "red")] := by
  obtain ⟨s, opened⟩ : ∃ s, start (kits [withoutInBlue "trim" "black",
    Configuration.withdrawal "blue"]) Settings.standard (.text "deco") 0 = .ok s := ⟨_, rfl⟩
  obtain ⟨state, ran, chosen⟩ : ∃ state, (s.reset true 1).answer = .ok state ∧ state.selection =
      [("line", .text "deco"), ("extra", .list [.text "gps"]), ("color", .text "red")] := by
    obtain rfl := Except.ok.inj opened
    exact ⟨_, rfl, rfl⟩
  obtain ⟨row, lined, member⟩ : s.snapshot.table.lineSpec? = some ⟨"product_lines", "line", "line",
      "Line", true, false, false⟩ ∧ s.state.line = some (.text "deco") ∧
      trimSpec ∈ s.snapshot.table.specs := by
    obtain rfl := Except.ok.inj opened
    exact ⟨rfl, rfl, by decide⟩
  have reachable : Reachable s :=
    @Reachable.start ((supplyOf "deco").install (kits [withoutInBlue "trim" "black",
      Configuration.withdrawal "blue"])) _ "first" _ _ _ s rfl opened
  have set : (Value.text "deco").isUnset = false := lineSet_of_reachable reachable _ lined
  obtain ⟨bare, c, presets, v, plain, configured, found, _, fields⟩ :=
    reset_presets_first_options row lined set ran
  exact ⟨s, state, bare, c, presets, opened, row, lined, set, ran, plain, configured, found,
    (fields trimSpec member rfl rfl).1, chosen⟩

/-- What can be chosen is left open where a turn drops a field and its options come back, where
the only extra that was preset is taken away, where two colors take turns, where the options
come with the presets, and where the id of the first option is empty. -/
theorem first_options_leave_open :
    LeavesOpen (kits [withoutInBlue "trim" "black", Configuration.withdrawal "blue"]) ∧
    LeavesOpen (kits [withoutInBlue "extra" "gps"]) ∧ LeavesOpen rivals ∧
    LeavesOpen (kits trimInBlue) ∧ LeavesOpen unnamedTrim := by
  refine ⟨?_, ?_, leavesOpen_rivals, ?_, ?_⟩
  · exact leavesOpen_of_lost trimSpec rfl rfl rfl (by decide) rfl rfl (by decide) rfl
  · exact leavesOpen_of_lost extraSpec rfl rfl rfl (by decide) rfl rfl (by decide) rfl
  · exact leavesOpen_of_lost trimSpec rfl rfl rfl (by decide) rfl rfl (by decide) rfl
  · exact leavesOpen_of_lost trimSpec rfl rfl rfl (by decide) rfl rfl (by decide) rfl

end Session

end MadeToOrder
