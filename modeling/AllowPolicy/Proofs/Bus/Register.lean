import AllowPolicy.Proofs.Bus.Snapshot
import Mathlib.Data.List.Induction
import Mathlib.Data.List.Nodup
import Mathlib.Data.List.TakeWhile

namespace AllowPolicy.Bus

/-- A subscription that was made, and whether the function that came with it, which takes it back,
    has been called. -/
structure Entry (η : Type) where
  subscription : Subscription η
  undone : Bool := false
  deriving DecidableEq

/-- A bus with all subscriptions that were ever made on it, the oldest first. -/
structure Register (η : Type) where
  bus : Bus η := {}
  entries : List (Entry η) := []
  deriving DecidableEq

/-- What is done to the subscriptions: one more is made, or the function is called that the one in a
    place came with, for the first time or again. -/
inductive Deed (η : Type) where
  | subscribe (subscription : Subscription η)
  | undo (place : Nat)

variable {η : Type}

/-- The subscription that a deed makes, if it makes one. -/
def Deed.made? : Deed η → Option (Subscription η)
  | .subscribe subscription => some subscription
  | .undo _ => none

/-- The subscriptions among some whose own functions have not been called. -/
def standing (entries : List (Entry η)) : List (Subscription η) :=
  (entries.filter fun entry => !entry.undone).map (·.subscription)

@[simp] theorem standing_nil : standing ([] : List (Entry η)) = [] := rfl

theorem standing_append (front back : List (Entry η)) :
    standing (front ++ back) = standing front ++ standing back := by
  simp [standing]

theorem standing_cons (entry : Entry η) (rest : List (Entry η)) :
    standing (entry :: rest) =
      if entry.undone then standing rest else entry.subscription :: standing rest := by
  cases hundone : entry.undone <;> simp [standing, hundone]

theorem append_eq_cons_iff {α : Type} {a : α} {front back : List α} :
    front ++ a :: back = a :: (front ++ back) ↔ ∀ x ∈ front, x = a := by
  induction front with
  | nil => simp
  | cons b rest ih =>
    constructor
    · intro hsame
      obtain ⟨rfl, hrest⟩ := List.cons_eq_cons.mp hsame
      rw [List.forall_mem_cons]
      exact ⟨rfl, ih.mp hrest⟩
    · intro hall
      obtain ⟨rfl, hrest⟩ := List.forall_mem_cons.mp hall
      rw [List.cons_append, ih.mpr hrest, List.cons_append]

/-- The first of its kind is taken out. The rest is as if this one were if only such
    stand between. -/
theorem erase_eq_iff {α : Type} [DecidableEq α] {a : α} {front back : List α} :
    (front ++ a :: back).erase a = front ++ back ↔ ∀ x ∈ front.dropWhile (· ≠ a), x = a := by
  induction front with
  | nil => simp
  | cons b rest ih =>
    by_cases hb : b = a
    · subst hb
      rw [List.cons_append, List.erase_cons_head, List.cons_append, append_eq_cons_iff,
        List.dropWhile_cons_of_neg (by simp), List.forall_mem_cons]
      exact (and_iff_right rfl).symm
    · rw [List.cons_append, List.erase_cons_tail (by simpa using hb), List.cons_append,
        List.dropWhile_cons_of_pos (by simpa using hb), List.cons_inj_right]
      exact ih

theorem mem_of_mem_standing {entries : List (Entry η)} {subscription : Subscription η}
    (hstands : subscription ∈ standing entries) : subscription ∈ entries.map (·.subscription) := by
  obtain ⟨entry, hentry, rfl⟩ := List.mem_map.mp hstands
  exact List.mem_map_of_mem (List.mem_filter.mp hentry).1

/-- A call of the function of a subscription takes this one out of those that stand. -/
theorem standing_modify {entries : List (Entry η)} {place : Nat} {entry : Entry η}
    (hentry : entries[place]? = some entry) :
    ∃ behind, standing (entries.modify place fun entry => { entry with undone := true }) =
        standing (entries.take place) ++ behind ∧
      standing entries = standing (entries.take place) ++
        if entry.undone then behind else entry.subscription :: behind := by
  obtain ⟨hplace, rfl⟩ := List.getElem?_eq_some_iff.mp hentry
  refine ⟨standing (entries.drop (place + 1)), ?_, ?_⟩
  · rw [List.modify_eq_take_cons_drop hplace, standing_append, standing_cons, if_pos rfl]
  · rw [← standing_cons, ← standing_append, ← List.drop_eq_getElem_cons hplace,
      List.take_append_drop]

namespace Register

/-- An event goes to those whose own functions have not been called, in their order. -/
def Exact (register : Register η) : Prop :=
  ∀ event, register.bus.subscriptions.filter (·.event = event) =
    (standing register.entries).filter (·.event = event)

variable [DecidableEq η]

def perform (register : Register η) : Deed η → Register η
  | .subscribe subscription =>
    { bus := register.bus.subscribe subscription
      entries := register.entries ++ [{ subscription }] }
  | .undo place =>
    match register.entries[place]? with
    | none => register
    | some entry =>
      { bus := register.bus.unsubscribe entry.subscription
        entries := register.entries.modify place fun entry => { entry with undone := true } }

/-- The register after some deeds, on a bus that nobody has used before. -/
def after (deeds : List (Deed η)) : Register η := deeds.foldl perform {}

theorem after_concat (deeds : List (Deed η)) (deed : Deed η) :
    after (deeds ++ [deed]) = (after deeds).perform deed := by
  simp [after]

/-- The function that a subscription came with takes back this one and no other. A call of it for
    the first time does if, from the oldest standing subscription of the same handler to the event
    on, only such stand before it. A call of it again does if none of them stands any more. -/
def TakesOwn (register : Register η) (place : Nat) : Prop :=
  match register.entries[place]? with
  | none => True
  | some entry =>
    if entry.undone then entry.subscription ∉ standing register.entries
    else
      let before := (standing (register.entries.take place)).filter
        (·.event = entry.subscription.event)
      ∀ other ∈ before.dropWhile (· ≠ entry.subscription), other = entry.subscription

theorem exact_subscribe {register : Register η} (hexact : register.Exact)
    (subscription : Subscription η) : (register.perform (.subscribe subscription)).Exact := by
  intro event
  simp [perform, Bus.subscribe, standing_append, standing_cons, hexact event]

theorem exact_undo_iff {register : Register η} (hexact : register.Exact) (place : Nat) :
    (register.perform (.undo place)).Exact ↔ register.TakesOwn place := by
  cases hentry : register.entries[place]? with
  | none =>
    simp only [perform, TakesOwn, hentry, iff_true]
    exact hexact
  | some entry =>
    obtain ⟨behind, hafter, hbefore⟩ := standing_modify hentry
    have hperform : (register.perform (.undo place)).Exact ↔ ∀ event,
        ((standing register.entries).filter (·.event = event)).erase entry.subscription =
          (standing (register.entries.take place) ++ behind).filter (·.event = event) := by
      simp only [Exact, perform, hentry, Bus.unsubscribe, ← List.erase_filter, hexact _, hafter]
    rw [hperform]
    simp only [TakesOwn, hentry]
    split
    · next hundone =>
      rw [if_pos hundone] at hbefore
      rw [← hbefore]
      simp only [List.erase_eq_self_iff, List.mem_filter]
      exact ⟨fun hnone hmem => hnone _ ⟨hmem, decide_eq_true rfl⟩, fun hmem _ hfound =>
        hmem hfound.1⟩
    · next hundone =>
      rw [if_neg hundone] at hbefore
      rw [hbefore]
      simp only [List.filter_append]
      constructor
      · intro hexact
        have hown := hexact entry.subscription.event
        rw [List.filter_cons_of_pos (by simp)] at hown
        exact erase_eq_iff.mp hown
      · intro hown event
        by_cases hevent : entry.subscription.event = event
        · subst hevent
          rw [List.filter_cons_of_pos (by simp)]
          exact erase_eq_iff.mpr hown
        · rw [List.filter_cons_of_neg (by simpa using hevent), List.erase_of_not_mem]
          simp [hevent]

theorem exact_after_nil : (after ([] : List (Deed η))).Exact := fun _ => rfl

/-- Events go where they should at all times exactly if every function that was called took back its
    own subscription. -/
theorem exact_after_iff (deeds : List (Deed η)) :
    (∀ early, early <+: deeds → (after early).Exact) ↔
      ∀ early place, early ++ [.undo place] <+: deeds → (after early).TakesOwn place := by
  constructor
  · intro hexact early place hprefix
    have hundone := hexact _ hprefix
    rw [after_concat] at hundone
    exact (exact_undo_iff (hexact early ((List.prefix_append early _).trans hprefix)) place).mp
      hundone
  · intro hown early
    induction early using List.reverseRecOn with
    | nil => exact fun _ => exact_after_nil
    | append_singleton early deed ih =>
      intro hprefix
      have hearly := ih ((List.prefix_append early _).trans hprefix)
      rw [after_concat]
      cases deed with
      | subscribe subscription => exact exact_subscribe hearly subscription
      | undo place => exact (exact_undo_iff hearly place).mpr (hown early place hprefix)

theorem subscriptions_perform (register : Register η) (deed : Deed η) :
    (register.perform deed).entries.map (·.subscription) =
      register.entries.map (·.subscription) ++ deed.made?.toList := by
  cases deed with
  | subscribe subscription => simp [perform, Deed.made?]
  | undo place =>
    simp only [perform, Deed.made?, Option.toList_none, List.append_nil]
    split
    · rfl
    · refine List.ext_getElem? fun other => ?_
      simp only [List.getElem?_map, List.getElem?_modify]
      cases register.entries[other]? with
      | none => rfl
      | some entry => split <;> rfl

theorem subscriptions_after (deeds : List (Deed η)) :
    (after deeds).entries.map (·.subscription) = deeds.filterMap Deed.made? := by
  induction deeds using List.reverseRecOn with
  | nil => rfl
  | append_singleton deeds deed ih =>
    rw [after_concat, subscriptions_perform, ih, List.filterMap_append]
    cases deed <;> rfl

/-- No function takes back another subscription if no handler was subscribed twice to an event. -/
theorem takesOwn_of_nodup {register : Register η}
    (hnodup : (register.entries.map (·.subscription)).Nodup) (place : Nat) :
    register.TakesOwn place := by
  unfold TakesOwn
  split
  · trivial
  · next entry hentry =>
    split
    · next hundone =>
      intro hstands
      obtain ⟨other, hother, hsame⟩ := List.mem_map.mp hstands
      obtain ⟨hmem, hkept⟩ := List.mem_filter.mp hother
      obtain rfl := List.inj_on_of_nodup_map hnodup hmem (List.mem_of_getElem? hentry) hsame
      simp [hundone] at hkept
    · obtain ⟨hplace, rfl⟩ := List.getElem?_eq_some_iff.mp hentry
      have hnew : register.entries[place].subscription ∉
          (register.entries.take place).map (·.subscription) := by
        intro hearlier
        rw [← List.take_append_drop place register.entries, List.drop_eq_getElem_cons hplace,
          List.map_append, List.map_cons] at hnodup
        exact (List.nodup_append.mp hnodup).2.2 _ hearlier _ List.mem_cons_self rfl
      intro before other hother
      have hnone : before.dropWhile (· ≠ register.entries[place].subscription) = [] := by
        refine List.dropWhile_eq_nil_iff.mpr fun earlier hmem => decide_eq_true ?_
        rintro rfl
        exact hnew (mem_of_mem_standing (List.mem_filter.mp hmem).1)
      rw [hnone] at hother
      cases hother

end Register

end AllowPolicy.Bus
