import Mathlib.Data.List.Induction
import Mathlib.Data.List.Nodup
import MadeToOrder.Proofs.Session.Failure

/-!
# Subscriptions

A subscription gives back a function that cancels it. The function knows its listener
only, so where one listener subscribed several times each call takes away the earliest
entry of the listener, whichever subscription it belongs to and however often it was
called before. What stays are the latest subscriptions of each listener. Their number
is that of the subscriptions that stand as long as no function is called again while
another subscription of its listener stands.
-/

set_option autoImplicit false

namespace MadeToOrder.Session

inductive Act where
  | subscribe (listener : String)
  | cancel (number : Nat)
  | perform (supply : Supply) (asOf : String) (now : Moment) (op : Operation)

def Act.cancels (number : Nat) : Act → Bool
  | .cancel other => other == number
  | _ => false

/-- A session and the functions that its subscriptions gave back, as the listeners that
they know. -/
structure Attended where
  session : Session
  granted : List String

namespace Attended

def step (a : Attended) : Act → Attended
  | .subscribe listener => ⟨a.session.subscribe listener, a.granted ++ [listener]⟩
  | .cancel number =>
    match a.granted[number]? with
    | some listener => { a with session := a.session.unsubscribe listener }
    | none => a
  | .perform supply asOf now op =>
    { a with session := (a.session.perform supply asOf now op).session }

def run (a : Attended) (acts : List Act) : Attended := acts.foldl step a

end Attended

def after (s : Session) (history : List Act) : Session :=
  (Attended.run ⟨s, []⟩ history).session

def sent (s : Session) (supply : Supply) (asOf : String) (now : Moment) (op : Operation) :
    List (String × Event) :=
  deliveries s.listeners (s.perform supply asOf now op).events

def receivedBy (listener : String) (sent : List (String × Event)) : List Event :=
  (sent.filter (fun delivery => delivery.1 = listener)).map Prod.snd

def subscribed : List Act → List String
  | [] => []
  | .subscribe listener :: later => listener :: subscribed later
  | _ :: later => subscribed later

/-- The subscriptions, numbered from `n`, whose own function is not called afterwards. -/
def standingFrom (n : Nat) : List Act → List (Nat × String)
  | [] => []
  | .subscribe listener :: later =>
    if later.any (Act.cancels n) then standingFrom (n + 1) later
    else (n, listener) :: standingFrom (n + 1) later
  | _ :: later => standingFrom n later

def standing (history : List Act) : List (Nat × String) := standingFrom 0 history

def standingOf (listener : String) (history : List Act) : Nat :=
  ((standing history).map Prod.snd).count listener

def tallyFrom (listener : String) (granted : List String) (left : Nat) : List Act → Nat
  | [] => left
  | .subscribe other :: later =>
    tallyFrom listener (granted ++ [other]) (if other = listener then left + 1 else left) later
  | .cancel number :: later =>
    tallyFrom listener granted (if granted[number]? = some listener then left - 1 else left) later
  | .perform _ _ _ _ :: later => tallyFrom listener granted left later

def tally (listener : String) (history : List Act) : Nat := tallyFrom listener [] 0 history

def latest (few : String → Nat) : List String → List String
  | [] => []
  | listener :: later =>
    if later.count listener < few listener then listener :: latest few later else latest few later

/-- Every call in a history meets what is allowed of the acts before it, of the number of
the function and of the listener that it knows. -/
def EachCall (allowed : List Act → Nat → String → Prop) (history : List Act) : Prop :=
  ∀ before number later listener, history = before ++ .cancel number :: later →
    (subscribed before)[number]? = some listener → allowed before number listener

/-- No function is called again while another subscription of its listener stands. -/
def Careful : List Act → Prop :=
  EachCall (fun before number listener => (number, listener) ∉ standing before →
    ∀ other, (other, listener) ∉ standing before)

/-- A call finds its own subscription as the first of its listener that stands, or none
that stands. -/
def InTurn : List Act → Prop :=
  EachCall (fun before number listener =>
    (standing before).find? (fun held => held.2 = listener) = none ∨
      (standing before).find? (fun held => held.2 = listener) = some (number, listener))

section Frame

variable {s : Session} {now : Moment}

theorem listeners_apply (selection : Selection) (leading : List Event) :
    (s.apply selection leading now).session.listeners = s.listeners := by
  unfold apply
  cases Configuration.recompute selection s.snapshot s.settings <;> rfl

theorem listeners_update (changes : Selection) :
    (s.update changes now).session.listeners = s.listeners := by
  unfold update
  cases s.checkLine changes with
  | error fault => rfl
  | ok found => exact listeners_apply _ _

theorem listeners_preset (state : State) :
    (s.preset state now).session.listeners = s.listeners := by
  unfold preset
  cases state.configured with
  | none => rfl
  | some c =>
    dsimp only
    cases firstOptions s.snapshot c.availability s.snapshot.table.specs with
    | error fault => rfl
    | ok chosen =>
      cases chosen with
      | nil => rfl
      | cons first rest => exact listeners_update _

theorem listeners_reset (useFirst : Bool) :
    (s.reset useFirst now).session.listeners = s.listeners := by
  unfold reset Ran.andThen
  cases (s.apply s.lineOnly [.cleared] now).answer with
  | error fault => exact listeners_apply _ _
  | ok state =>
    cases useFirst with
    | false => exact listeners_apply _ _
    | true => exact (listeners_preset state).trans (listeners_apply _ _)

theorem listeners_load (sku : Value) : (s.load sku now).session.listeners = s.listeners := by
  unfold load
  cases Sku.parse sku s.snapshot.codeFields s.snapshot .null s.settings.separators with
  | error fault => rfl
  | ok parsed => exact listeners_apply _ _

theorem listeners_refreshWithin (supply : Supply) (limit : Value) (asOf : String) :
    (s.refreshWithin supply limit asOf now).2.session.listeners = s.listeners := by
  unfold refreshWithin
  cases supply.refresh limit asOf with
  | mk supply result =>
    cases result with
    | error fault => rfl
    | ok refreshed => exact listeners_apply _ _

/-- No operation changes who listens. -/
theorem listeners_perform (supply : Supply) (asOf : String) (op : Operation) :
    (s.perform supply asOf now op).session.listeners = s.listeners := by
  cases op with
  | set field v => exact listeners_update _
  | update changes => exact listeners_update _
  | reset useFirst => exact listeners_reset _
  | load sku => exact listeners_load _
  | refresh limit => exact listeners_refreshWithin _ _ _

end Frame

section Registry

variable {s : Session} {history : List Act} {listener : String} {number : Nat} {supply : Supply}
  {asOf : String} {now : Moment} {op : Operation}

theorem granted_run (a : Attended) (history : List Act) :
    (a.run history).granted = a.granted ++ subscribed history := by
  induction history generalizing a with
  | nil => simp [Attended.run, subscribed]
  | cons act later ih =>
    rw [Attended.run, List.foldl_cons, ← Attended.run, ih]
    cases act with
    | subscribe listener => simp [Attended.step, subscribed]
    | cancel number =>
      have same : (a.step (.cancel number)).granted = a.granted := by
        unfold Attended.step
        dsimp only
        split <;> rfl
      rw [same]
      rfl
    | perform => rfl

theorem granted_after : (Attended.run ⟨s, []⟩ history).granted = subscribed history := by
  rw [granted_run, List.nil_append]

theorem run_append_singleton (a : Attended) (act : Act) :
    a.run (history ++ [act]) = (a.run history).step act :=
  List.foldl_append

theorem after_append_subscribe :
    (s.after (history ++ [.subscribe listener])).listeners =
      (s.after history).listeners ++ [listener] := by
  rw [after, run_append_singleton]
  rfl

theorem after_append_cancel (granted : (subscribed history)[number]? = some listener) :
    (s.after (history ++ [.cancel number])).listeners =
      (s.after history).listeners.erase listener := by
  rw [after, run_append_singleton, Attended.step, granted_after, granted]
  rfl

theorem after_append_cancel_of_none (absent : (subscribed history)[number]? = none) :
    (s.after (history ++ [.cancel number])).listeners = (s.after history).listeners := by
  rw [after, run_append_singleton, Attended.step, granted_after, absent]
  rfl

theorem after_append_perform :
    (s.after (history ++ [.perform supply asOf now op])).listeners =
      (s.after history).listeners := by
  rw [after, run_append_singleton]
  exact listeners_perform _ _ _

end Registry

section Standing

variable {history later : List Act} {listener other : String} {number n : Nat} {supply : Supply}
  {asOf : String} {now : Moment} {op : Operation}

theorem subscribed_append (history later : List Act) :
    subscribed (history ++ later) = subscribed history ++ subscribed later := by
  induction history with
  | nil => rfl
  | cons act rest ih => cases act <;> simp [subscribed, ih]

theorem subscribed_append_cancel :
    subscribed (history ++ [.cancel number]) = subscribed history := by
  simp [subscribed_append, subscribed]

theorem subscribed_append_perform :
    subscribed (history ++ [.perform supply asOf now op]) = subscribed history := by
  simp [subscribed_append, subscribed]

theorem standingFrom_append_subscribe :
    standingFrom n (history ++ [.subscribe listener]) =
      standingFrom n history ++ [(n + (subscribed history).length, listener)] := by
  induction history generalizing n with
  | nil => rfl
  | cons act later ih =>
    cases act with
    | subscribe other =>
      simp only [List.cons_append, standingFrom, subscribed, ih, List.any_append]
      by_cases called : later.any (Act.cancels n) = true
      · simp [called, Nat.add_assoc, Nat.add_comm 1]
      · simp [called, Act.cancels, Nat.add_assoc, Nat.add_comm 1]
    | cancel | perform => exact ih

theorem standingFrom_append_cancel :
    standingFrom n (history ++ [.cancel number]) =
      (standingFrom n history).filter (fun held => held.1 ≠ number) := by
  induction history generalizing n with
  | nil => rfl
  | cons act later ih =>
    cases act with
    | subscribe other =>
      simp only [List.cons_append, standingFrom, List.any_append, ih]
      by_cases called : later.any (Act.cancels n) = true
      · simp [called]
      · by_cases same : number = n
        · simp [called, same, Act.cancels]
        · simp [called, Act.cancels, same, Ne.symm same]
    | cancel | perform => simpa [standingFrom] using ih

theorem standingFrom_append_perform :
    standingFrom n (history ++ [.perform supply asOf now op]) = standingFrom n history := by
  induction history generalizing n with
  | nil => rfl
  | cons act later ih =>
    cases act with
    | subscribe other => simp [standingFrom, ih, Act.cancels]
    | cancel | perform => simpa [standingFrom] using ih

/-- Those that stand are some of the subscriptions, with their numbers. -/
theorem standingFrom_sublist :
    (standingFrom n history).Sublist ((subscribed history).zipIdx n |>.map Prod.swap) := by
  induction history generalizing n with
  | nil => exact .slnil
  | cons act later ih =>
    cases act with
    | subscribe other =>
      rw [standingFrom]
      split
      · exact ih.cons _
      · exact ih.cons_cons _
    | cancel | perform => exact ih

theorem listeners_sublist : ((standing history).map Prod.snd).Sublist (subscribed history) := by
  have swapped := (@standingFrom_sublist history 0).map Prod.snd
  rw [List.map_map] at swapped
  simpa [Function.comp_def, standing] using swapped

theorem numbers_nodup : ((standing history).map Prod.fst).Nodup := by
  have swapped := (@standingFrom_sublist history 0).map Prod.fst
  rw [List.map_map] at swapped
  refine List.Nodup.sublist swapped ?_
  rw [show Prod.fst ∘ Prod.swap = @Prod.snd String Nat from rfl, List.zipIdx_map_snd]
  exact List.nodup_range'

theorem granted_of_standing (stands : (number, listener) ∈ standing history) :
    (subscribed history)[number]? = some listener := by
  have member := standingFrom_sublist.subset stands
  simpa [List.mem_zipIdx_iff_getElem?] using member

theorem standingOf_append_subscribe : standingOf listener (history ++ [.subscribe other]) =
    standingOf listener history + if other = listener then 1 else 0 := by
  simp [standingOf, standing, standingFrom_append_subscribe, List.count_singleton]

/-- Taking the entry of one number away takes it from its own listener. -/
theorem count_filter_number {held : List (Nat × String)} (numbers : (held.map Prod.fst).Nodup) :
    ((held.filter (fun h => h.1 ≠ number)).map Prod.snd).count listener +
      (if (number, listener) ∈ held then 1 else 0) = (held.map Prod.snd).count listener := by
  induction held with
  | nil => rfl
  | cons first rest ih =>
    obtain ⟨m, x⟩ := first
    obtain ⟨fresh, numbers⟩ := List.nodup_cons.mp numbers
    have later := ih numbers
    by_cases same : m = number
    · subst same
      have absent : ∀ y, (m, y) ∉ rest := fun y member => fresh (List.mem_map.mpr ⟨_, member, rfl⟩)
      rw [if_neg (absent listener)] at later
      rw [List.filter_cons_of_neg (by simp), List.map_cons, List.count_cons, ← later]
      by_cases own : x = listener
      · simp [own]
      · simp [own, Ne.symm own, absent]
    · rw [List.filter_cons_of_pos (by simpa using same), List.map_cons, List.map_cons,
        List.count_cons, List.count_cons, ← later]
      simp [Ne.symm same]
      omega

theorem standingOf_append_cancel (listener : String) (number : Nat) (history : List Act) :
    standingOf listener (history ++ [.cancel number]) +
      (if (number, listener) ∈ standing history then 1 else 0) =
        standingOf listener history := by
  rw [standingOf, standing, standingFrom_append_cancel]
  exact count_filter_number numbers_nodup

theorem standingOf_append_perform :
    standingOf listener (history ++ [.perform supply asOf now op]) =
      standingOf listener history := by
  rw [standingOf, standing, standingFrom_append_perform]
  rfl

theorem standingOf_eq_zero_iff :
    standingOf listener history = 0 ↔ ∀ n, (n, listener) ∉ standing history := by
  simp [standingOf, List.count_eq_zero]

end Standing

section Counting

variable {history : List Act} {listener other : String} {number : Nat} {supply : Supply}
  {asOf : String} {now : Moment} {op : Operation}

theorem tallyFrom_append (granted : List String) (left : Nat) (history later : List Act) :
    tallyFrom listener granted left (history ++ later) =
      tallyFrom listener (granted ++ subscribed history)
        (tallyFrom listener granted left history) later := by
  induction history generalizing granted left with
  | nil => simp [tallyFrom, subscribed]
  | cons act rest ih => cases act <;> simp [tallyFrom, subscribed, ih]

theorem tally_append_subscribe : tally listener (history ++ [.subscribe other]) =
    if other = listener then tally listener history + 1 else tally listener history :=
  tallyFrom_append _ _ _ _

theorem tally_append_cancel : tally listener (history ++ [.cancel number]) =
    if (subscribed history)[number]? = some listener then tally listener history - 1
    else tally listener history := by
  rw [tally, tallyFrom_append]
  rfl

theorem tally_append_perform : tally listener (history ++ [.perform supply asOf now op]) =
    tally listener history :=
  tallyFrom_append _ _ _ _

theorem tally_le_standingOf (listener : String) (history : List Act) :
    tally listener history ≤ standingOf listener history := by
  induction history using List.reverseRecOn with
  | nil => exact Nat.le_refl 0
  | append_singleton history act ih =>
    cases act with
    | subscribe other =>
      rw [tally_append_subscribe, standingOf_append_subscribe]
      split <;> omega
    | cancel number =>
      have removed := standingOf_append_cancel listener number history
      rw [tally_append_cancel]
      by_cases stands : (number, listener) ∈ standing history
      · rw [if_pos (granted_of_standing stands)]
        rw [if_pos stands] at removed
        omega
      · rw [if_neg stands] at removed
        split <;> omega
    | perform =>
      rw [tally_append_perform, standingOf_append_perform]
      exact ih

theorem EachCall.of_append {allowed : List Act → Nat → String → Prop} {later : List Act}
    (h : EachCall allowed (history ++ later)) : EachCall allowed history := by
  intro before number rest listener split
  exact h before number (rest ++ later) listener (by simp [split])

theorem tally_eq_of_careful (h : Careful history) (listener : String) :
    tally listener history = standingOf listener history := by
  induction history using List.reverseRecOn with
  | nil => rfl
  | append_singleton history act ih =>
    have same := ih h.of_append
    cases act with
    | subscribe other =>
      rw [tally_append_subscribe, standingOf_append_subscribe]
      split <;> omega
    | cancel number =>
      have removed := standingOf_append_cancel listener number history
      rw [tally_append_cancel]
      by_cases stands : (number, listener) ∈ standing history
      · rw [if_pos (granted_of_standing stands)]
        rw [if_pos stands] at removed
        omega
      · rw [if_neg stands] at removed
        split
        next granted =>
          -- The call takes nothing away because nothing of the listener is left.
          have none := standingOf_eq_zero_iff.mpr (h history number [] listener rfl granted stands)
          omega
        next => omega
    | perform =>
      rw [tally_append_perform, standingOf_append_perform]
      exact same

/-- Counts agree at every moment exactly where the functions are called with care. -/
theorem careful_iff : Careful history ↔ ∀ before, before <+: history → ∀ listener,
    tally listener before = standingOf listener before := by
  constructor
  · rintro h before ⟨later, rfl⟩ listener
    exact tally_eq_of_careful h.of_append listener
  · rintro agree before number later listener rfl granted called other stands
    have here := agree before (List.prefix_append _ _) listener
    have after := agree (before ++ [.cancel number]) ⟨later, by simp⟩ listener
    have removed := standingOf_append_cancel listener number before
    rw [if_neg called] at removed
    rw [tally_append_cancel, if_pos granted] at after
    have empty : standingOf listener before = 0 := by omega
    exact standingOf_eq_zero_iff.mp empty other stands

end Counting

section Latest

variable {few few' : String → Nat} {listener : String} {listed : List String}

theorem count_latest : (latest few listed).count listener =
    min (few listener) (listed.count listener) := by
  induction listed with
  | nil => simp [latest]
  | cons first later ih =>
    rw [latest]
    by_cases own : first = listener
    · subst own
      split
      · rw [List.count_cons_self, List.count_cons_self, ih]
        omega
      · rw [List.count_cons_self, ih]
        omega
    · split <;> simp [List.count_cons_of_ne own, ih]

/-- Entries do not depend on how far a number is past those that are there. -/
theorem latest_congr
    (same : ∀ x, few x = few' x ∨ listed.count x ≤ few x ∧ listed.count x ≤ few' x) :
    latest few listed = latest few' listed := by
  induction listed with
  | nil => rfl
  | cons first later ih =>
    have shorter : ∀ x, later.count x ≤ (first :: later).count x :=
      fun x => (List.sublist_cons_self first later).count_le x
    have rest : latest few later = latest few' later := by
      apply ih
      intro x
      rcases same x with equal | ⟨here, there⟩
      · exact Or.inl equal
      · exact Or.inr ⟨Nat.le_trans (shorter x) here, Nat.le_trans (shorter x) there⟩
    have kept : later.count first < few first ↔ later.count first < few' first := by
      have own := same first
      rw [List.count_cons_self] at own
      omega
    simp only [latest, rest, kept]

theorem latest_append_singleton :
    latest (fun x => if listener = x then few x + 1 else few x) (listed ++ [listener]) =
      latest few listed ++ [listener] := by
  induction listed with
  | nil => simp [latest]
  | cons first later ih =>
    have kept : (later ++ [listener]).count first <
        (if listener = first then few first + 1 else few first) ↔
          later.count first < few first := by
      by_cases own : listener = first
      · simp [own]
      · simp [own]
    simp only [List.cons_append, latest, kept, ih]
    split <;> rfl

/-- The earliest entry of those that stayed goes first. -/
theorem erase_latest (enough : few listener ≤ listed.count listener) :
    (latest few listed).erase listener =
      latest (fun x => if listener = x then few x - 1 else few x) listed := by
  induction listed with
  | nil => rfl
  | cons first later ih =>
    by_cases own : listener = first
    · subst own
      rw [List.count_cons_self] at enough
      simp only [latest, if_true]
      by_cases kept : later.count listener < few listener
      · rw [if_pos kept, if_neg (by omega), List.erase_cons_head]
        apply latest_congr
        intro x
        by_cases own : listener = x
        · subst own
          refine Or.inr ⟨by omega, ?_⟩
          rw [if_pos rfl]
          omega
        · exact Or.inl (if_neg own).symm
      · rw [if_neg kept, if_neg (by omega)]
        exact ih (by omega)
    · rw [List.count_cons_of_ne (Ne.symm own)] at enough
      simp only [latest, if_neg own]
      split
      · rw [List.erase_cons_tail (by simpa using Ne.symm own), ih enough]
      · exact ih enough

end Latest

section Serving

variable {s : Session} {history : List Act} {listener : String} {number : Nat}

theorem tally_le_count (listener : String) (history : List Act) :
    tally listener history ≤ (subscribed history).count listener :=
  Nat.le_trans (tally_le_standingOf listener history) (listeners_sublist.count_le listener)

/-- The registry holds the latest subscriptions of each listener, in their order. -/
theorem listeners_after (new : s.listeners = []) (history : List Act) :
    (s.after history).listeners =
      latest (fun listener => tally listener history) (subscribed history) := by
  induction history using List.reverseRecOn with
  | nil => exact new
  | append_singleton history act ih =>
    cases act with
    | subscribe listener =>
      rw [after_append_subscribe, ih, ← latest_append_singleton, subscribed_append]
      simp only [tally_append_subscribe]
      rfl
    | cancel number =>
      rw [subscribed_append_cancel]
      simp only [tally_append_cancel]
      cases granted : (subscribed history)[number]? with
      | none =>
        rw [after_append_cancel_of_none granted, ih]
        simp
      | some listener =>
        rw [after_append_cancel granted, ih, erase_latest (tally_le_count listener history)]
        simp
    | perform =>
      rw [after_append_perform, ih, subscribed_append_perform]
      simp only [tally_append_perform]

theorem count_after (new : s.listeners = []) (listener : String) (history : List Act) :
    (s.after history).listeners.count listener = tally listener history := by
  rw [listeners_after new, count_latest]
  exact Nat.min_eq_left (tally_le_count listener history)

theorem filter_number_of_absent {held : List (Nat × String)}
    (absent : ∀ x, (number, x) ∉ held) : held.filter (fun h => h.1 ≠ number) = held := by
  rw [List.filter_eq_self]
  rintro ⟨n, x⟩ member
  have other : n ≠ number := by
    rintro rfl
    exact absent x member
  simpa using other

/-- Where the first entry of a listener is the one with the number, both ways to take an
entry away are one. -/
theorem erase_of_first {held : List (Nat × String)} (numbers : (held.map Prod.fst).Nodup)
    (first : held.find? (fun h => h.2 = listener) = some (number, listener)) :
    (held.map Prod.snd).erase listener =
      (held.filter (fun h => h.1 ≠ number)).map Prod.snd := by
  obtain ⟨_, before, later, rfl, others⟩ := List.find?_eq_some_iff_append.mp first
  rw [List.map_append, List.map_cons, List.nodup_middle, List.nodup_cons] at numbers
  have fresh : ∀ x, (number, x) ∉ before ++ later := by
    intro x member
    apply numbers.1
    rw [← List.map_append]
    exact List.mem_map.mpr ⟨_, member, rfl⟩
  have unlisted : listener ∉ before.map Prod.snd := by
    intro member
    obtain ⟨held, earlier, same⟩ := List.mem_map.mp member
    simpa [same] using others held earlier
  rw [List.filter_append, List.filter_cons_of_neg (by simp), ← List.filter_append,
    filter_number_of_absent fresh, List.map_append, List.map_append, List.map_cons,
    List.erase_append_right _ unlisted, List.erase_cons_head]

theorem listeners_of_inTurn (h : InTurn history) (new : s.listeners = []) :
    (s.after history).listeners = (standing history).map Prod.snd := by
  induction history using List.reverseRecOn with
  | nil => exact new
  | append_singleton history act ih =>
    have same := ih h.of_append
    rw [standing]
    cases act with
    | subscribe listener =>
      rw [after_append_subscribe, same, standingFrom_append_subscribe, List.map_append]
      rfl
    | cancel number =>
      rw [standingFrom_append_cancel, ← standing]
      cases granted : (subscribed history)[number]? with
      | none =>
        rw [after_append_cancel_of_none granted, same, filter_number_of_absent]
        intro x stands
        rw [granted_of_standing stands] at granted
        cases granted
      | some listener =>
        rw [after_append_cancel granted, same]
        rcases h history number [] listener rfl granted with none | first
        · rw [List.find?_eq_none] at none
          rw [filter_number_of_absent]
          · apply List.erase_of_not_mem
            intro member
            obtain ⟨held, stands, rfl⟩ := List.mem_map.mp member
            exact none held stands (by simp)
          · intro x stands
            rw [granted_of_standing stands] at granted
            exact none _ stands (by simpa using granted)
        · exact erase_of_first numbers_nodup first
    | perform =>
      rw [after_append_perform, same, standingFrom_append_perform]
      rfl

/-- Where nobody subscribes twice, any calls are in turn. -/
theorem inTurn_of_nodup (distinct : (subscribed history).Nodup) : InTurn history := by
  rintro before number later listener rfl granted
  rw [subscribed_append] at distinct
  have distinct := (List.nodup_append.mp distinct).1
  cases found : (standing before).find? (fun held => held.2 = listener) with
  | none => exact Or.inl rfl
  | some held =>
    obtain ⟨n, x⟩ := held
    obtain rfl : x = listener := by simpa using List.find?_some found
    have here := granted_of_standing (List.mem_of_find?_eq_some found)
    have within : n < (subscribed before).length := (List.getElem?_eq_some_iff.mp here).1
    obtain rfl := (List.getElem?_inj within distinct).mp (here.trans granted.symm)
    exact Or.inr rfl

theorem receivedBy_append (first second : List (String × Event)) :
    receivedBy listener (first ++ second) =
      receivedBy listener first ++ receivedBy listener second := by
  simp [receivedBy]

theorem receivedBy_one (listener : String) (listeners : List String) (event : Event) :
    receivedBy listener (listeners.map (fun other => (other, event))) =
      List.replicate (listeners.count listener) event := by
  induction listeners with
  | nil => rfl
  | cons other rest ih =>
    rw [receivedBy] at ih ⊢
    by_cases own : other = listener
    · simp [own, List.replicate_succ, ih]
    · simp [own, ih]

/-- A listener receives every event once for each of its entries. -/
theorem receivedBy_deliveries (listener : String) (listeners : List String)
    (events : List Event) : receivedBy listener (deliveries listeners events) =
      events.flatMap (List.replicate (listeners.count listener)) := by
  induction events with
  | nil => rfl
  | cons event rest ih =>
    rw [deliveries, List.flatMap_cons, receivedBy_append, receivedBy_one, ← deliveries, ih,
      List.flatMap_cons]

end Serving

/-- What an operation sends goes to the latest subscriptions of each listener, in the
order in which they were made. Each listener is told as often as its tally says, which
never is more than the number of its subscriptions that stand. It is that number at
every moment exactly where no function is called again while another subscription of
its listener stands. Where the subscriptions of a listener are cancelled in turn, the
events go to those that stand. -/
theorem latest_subscriptions_are_served (s : Session) (new : s.listeners = [])
    (history : List Act) :
    (∀ supply asOf now op, (s.after history).sent supply asOf now op =
      deliveries (latest (fun listener => tally listener history) (subscribed history))
        ((s.after history).perform supply asOf now op).events) ∧
    (∀ supply asOf now op listener,
      receivedBy listener ((s.after history).sent supply asOf now op) =
        ((s.after history).perform supply asOf now op).events.flatMap
          (List.replicate (tally listener history))) ∧
    (∀ listener, tally listener history ≤ standingOf listener history) ∧
    (Careful history ↔ ∀ before, before <+: history → ∀ listener,
      tally listener before = standingOf listener before) ∧
    (InTurn history → ∀ supply asOf now op, (s.after history).sent supply asOf now op =
      deliveries ((standing history).map Prod.snd)
        ((s.after history).perform supply asOf now op).events) := by
  refine ⟨?_, ?_, fun listener => tally_le_standingOf listener history, careful_iff, ?_⟩
  · intro supply asOf now op
    rw [sent, listeners_after new]
  · intro supply asOf now op listener
    rw [sent, receivedBy_deliveries, count_after new]
  · intro inTurn supply asOf now op
    rw [sent, listeners_of_inTurn inTurn new]

def pageLeaves : List Act := [.subscribe "page", .subscribe "log", .cancel 0, .cancel 0]

def pageStays : List Act :=
  [.subscribe "page", .subscribe "log", .subscribe "page", .cancel 2]

def pageIsLost : List Act := [.subscribe "page", .subscribe "page", .cancel 0, .cancel 0]

theorem log_is_told_alone :
    ∃ s, openDeco = .ok s ∧ s.listeners = [] ∧ InTurn pageLeaves ∧
      (s.after pageLeaves).sent (supplyOf "deco") "first" 1 (.reset false) =
        deliveries ["log"]
          ((s.after pageLeaves).perform (supplyOf "deco") "first" 1 (.reset false)).events ∧
      (s.after pageStays).sent (supplyOf "deco") "first" 1 (.reset false) =
        deliveries ["log", "page"]
          ((s.after pageStays).perform (supplyOf "deco") "first" 1 (.reset false)).events := by
  obtain ⟨s, opened, new⟩ : ∃ s, openDeco = .ok s ∧ s.listeners = [] := ⟨_, rfl, rfl⟩
  have inTurn : InTurn pageLeaves := inTurn_of_nodup (by decide)
  obtain ⟨_, _, _, _, standing⟩ := latest_subscriptions_are_served s new pageLeaves
  obtain ⟨latest, _⟩ := latest_subscriptions_are_served s new pageStays
  exact ⟨s, opened, new, inTurn, standing inTurn _ _ _ _, latest _ _ _ _⟩

/-- A function that is called twice cancels another subscription of its listener too, and
one that is called once cancels the earliest, which need not be its own. -/
theorem cancels_reach_other_subscriptions :
    (¬∀ s, Reachable s → s.listeners = [] → ∀ history supply asOf now op listener,
      receivedBy listener ((s.after history).sent supply asOf now op) =
        ((s.after history).perform supply asOf now op).events.flatMap
          (List.replicate (standingOf listener history))) ∧
    ¬∀ s, Reachable s → s.listeners = [] → ∀ history supply asOf now op,
      (s.after history).sent supply asOf now op =
        deliveries ((standing history).map Prod.snd)
          ((s.after history).perform supply asOf now op).events := by
  have reached : ∃ s, openDeco = .ok s ∧ Reachable s :=
    ⟨_, rfl, @Reachable.start (supplyOf "deco") _ "first" Settings.standard (.text "deco") 0 _
      rfl rfl⟩
  obtain ⟨s, opened, reachable⟩ := reached
  obtain rfl := Except.ok.inj opened
  constructor
  · intro counted
    have same := counted _ reachable rfl pageIsLost (supplyOf "deco") "first" 1 (.reset false) "page"
    exact absurd (congrArg List.length same) (by decide)
  · intro ordered
    have same := ordered _ reachable rfl pageStays (supplyOf "deco") "first" 1 (.reset false)
    exact absurd (congrArg (fun sent => sent.head?.map Prod.fst) same) (by decide)

end MadeToOrder.Session
