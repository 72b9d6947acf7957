import AllowPolicy.Proofs.Loading.Outcome

namespace AllowPolicy

/-- A call on a sink: a rule for every application, or for a single one. -/
inductive Sink.Call where
  | global (rule : Rule)
  | app (uid : Nat) (rule : Rule)

/-- The call that offers a rule. -/
def ScopedRule.call (entry : ScopedRule) : Sink.Call :=
  if entry.isGlobal then .global entry.rule else .app entry.scope entry.rule

variable {σ : Type}

/-- A sink that notes every call before it passes the call on. -/
def Sink.noting (sink : Sink σ) : Sink (List Call × σ) where
  addGlobal rule := fun (calls, state) =>
    let (answer, after) := (sink.addGlobal rule).run state
    (answer, calls ++ [.global rule], after)
  addApp uid rule := fun (calls, state) =>
    let (answer, after) := (sink.addApp uid rule).run state
    (answer, calls ++ [.app uid rule], after)

namespace Loading

theorem offer_noting (sink : Sink σ) (entry : ScopedRule) (calls : List Sink.Call) (state : σ) :
    (offer sink.noting entry).run (calls, state) =
      (((offer sink entry).run state).1, calls ++ [entry.call],
        ((offer sink entry).run state).2) := by
  unfold offer ScopedRule.call
  by_cases hglobal : entry.isGlobal
  · rw [if_pos hglobal, if_pos hglobal, if_pos hglobal]
    rfl
  · rw [if_neg hglobal, if_neg hglobal, if_neg hglobal]
    rfl

/-- Routing calls the sink once for each rule in order, up to the first that the sink refuses. -/
theorem route_noting (sink : Sink σ) (entries : List ScopedRule) (calls : List Sink.Call)
    (state : σ) :
    ∃ offered rest, entries = offered ++ rest ∧
      ((route sink.noting entries).run (calls, state)).value =
        (((route sink entries).run state).value.1, calls ++ offered.map ScopedRule.call,
          ((route sink entries).run state).value.2) ∧
      (((route sink entries).run state).value.1 = .ok () → rest = []) ∧
      ∀ failure, ((route sink entries).run state).value.1 = .error failure →
        ∃ last before after, offered.getLast? = some last ∧
          (offer sink last).run before = (.error failure, after) := by
  induction entries generalizing calls state with
  | nil =>
    refine ⟨[], [], rfl, ?_, fun _ => rfl, fun _ hfailed => by cases hfailed⟩
    rw [List.map_nil, List.append_nil]
    rfl
  | cons entry later ih =>
    rw [route_cons, route_cons, offer_noting]
    rcases hoffer : (offer sink entry).run state with ⟨failure | _, after⟩
    · refine ⟨[entry], later, rfl, rfl, ?_, ?_⟩
      · intro hok
        cases hok
      · intro _ hfailed
        cases hfailed
        exact ⟨entry, state, after, rfl, hoffer⟩
    · obtain ⟨offered, rest, hsplit, hroute, hall, hrefused⟩ := ih (calls ++ [entry.call]) after
      refine ⟨entry :: offered, rest, by rw [hsplit, List.cons_append], ?_, hall, ?_⟩
      · simp only [hroute, List.map_cons, List.append_assoc, List.singleton_append]
      · intro failure hfailed
        obtain ⟨last, there, left, hlast, hanswer⟩ := hrefused failure hfailed
        exact ⟨last, there, left, by simp [List.getLast?_cons, hlast], hanswer⟩

end Loading

end AllowPolicy
