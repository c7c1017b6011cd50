import AccessNotices.Proofs.Session.Discipline
import Mathlib.Data.List.FinRange
/-!
Calls that leave nothing behind.

What a call does is a matter of the call and of how the store behaves in it; of the calls before it
only the counts go on. Every call gives back the connection that it took, so that even an engine
whose conduct depends on how many connections are out is at each call as it was at the first
(`Call.playLent_eq`). Main statement: `Call.calls_independent`, for every sequence of calls and
every order of them.
-/

namespace AccessNotices

/-! ### Counts -/

namespace Tally

/-- How many connections are out: entered, and not left. -/
def out (t : Tally) : Nat := t.entered - t.left

theorem Even.out_eq {calls : Nat} {t : Tally} (even : Even calls t) : t.out = 0 := by
  rw [out, even.left_eq, Nat.sub_self]

theorem countAll_append (t : Tally) (first second : List Event) :
    t.countAll (first ++ second) = (t.countAll first).countAll second :=
  List.foldl_append

/-- Events count the same in any order. -/
theorem countAll_perm (t : Tally) {first second : List Event} (perm : first.Perm second) :
    t.countAll first = t.countAll second := by
  rw [countAll_eq, countAll_eq, perm.count_eq, perm.count_eq, perm.count_eq]

end Tally

/-- The elements of a list in another order. -/
def reordered {α : Type} (l : List α) (σ : Equiv.Perm (Fin l.length)) : List α :=
  List.ofFn (l.get ∘ σ)

theorem reordered_perm {α : Type} (l : List α) (σ : Equiv.Perm (Fin l.length)) :
    (reordered l σ).Perm l := by
  have perm := σ.ofFn_comp_perm l.get
  rwa [List.ofFn_get] at perm

theorem getElem?_reordered {α : Type} (l : List α) (σ : Equiv.Perm (Fin l.length))
    (i : Fin l.length) : (reordered l σ)[i.val]? = l[(σ i).val]? := by
  simp [reordered]

namespace Call

/-! ### Sequences of calls -/

/-- What happens in a call, by itself. -/
def eventsAlone (step : Engine × Call) : List Event :=
  (step.2.play step.1).events

/-- The counts after all calls. -/
def totals (start : Tally) (calls : List (Engine × Call)) : Tally :=
  ((playAll start calls).getLast?.map Prod.snd).getD start

theorem totals_cons (start : Tally) (step : Engine × Call) (rest : List (Engine × Call)) :
    totals start (step :: rest) = totals (start.countAll (eventsAlone step)) rest := by
  have played : playAll start (step :: rest) =
      (step.2.play step.1, start.countAll (eventsAlone step)) ::
        playAll (start.countAll (eventsAlone step)) rest := rfl
  rw [totals, totals, played, List.getLast?_cons]
  cases (playAll (start.countAll (eventsAlone step)) rest).getLast? <;> rfl

/-- The counts after all calls are those of all that happens in them. -/
theorem totals_eq (start : Tally) (calls : List (Engine × Call)) :
    totals start calls = start.countAll (calls.flatMap eventsAlone) := by
  induction calls generalizing start with
  | nil => rfl
  | cons step rest ih => rw [totals_cons, ih, List.flatMap_cons, Tally.countAll_append]

/-- Each call is played as it is alone. -/
theorem getElem?_playAll (start : Tally) (calls : List (Engine × Call)) (i : Nat) :
    (playAll start calls)[i]?.map Prod.fst = calls[i]?.map fun (engine, call) => call.play engine := by
  rw [← List.getElem?_map, ← List.getElem?_map, map_fst_playAll]

/-! ### Engines that lend connections -/

/-- An engine whose conduct depends on how many connections are out. -/
abbrev Lender := Nat → Engine

/-- A sequence of calls on such engines: the conduct at each call is the one for the connections
that are out then. -/
def playLent : Tally → List (Lender × Call) → List (Transcript Event LookupError Answer × Tally)
  | _, [] => []
  | tally, (lender, call) :: rest =>
    let t := call.play (lender tally.out)
    let tally := tally.countAll t.events
    (t, tally) :: playLent tally rest

/-- At every call all connections are back, so it is played as if it were the first. -/
theorem playLent_eq {n : Nat} {tally : Tally} (even : tally.Even n) (calls : List (Lender × Call)) :
    playLent tally calls = playAll tally (calls.map fun (lender, call) => (lender 0, call)) := by
  -- On the calls, for every even tally: a call that is played leaves an even tally.
  induction calls generalizing n tally with
  | nil => rfl
  | cons step rest ih =>
    obtain ⟨lender, call⟩ := step
    rw [playLent, even.out_eq, ih (even.countAll (disciplined_play (lender 0) call))]
    rfl

/-! ### Independence -/

/-- **Calls are independent.** In every sequence of calls, whatever was counted before it, each call
does, logs and gives what it does, logs and gives alone on a fresh engine. In another order each
call does the same, and the counts after all calls are the same. Nor does it matter if the conduct
of the engine depends on how many connections are out: at each call it is as on a fresh engine. -/
theorem calls_independent (start : Tally) (calls : List (Engine × Call)) :
    (∀ i : Fin calls.length, ∃ t after, (playAll start calls)[i.val]? = some (t, after) ∧
      playAll .zero [calls.get i] = [(t, Tally.zero.countAll t.events)]) ∧
    (∀ σ : Equiv.Perm (Fin calls.length),
      (∀ i : Fin calls.length, (playAll start (reordered calls σ))[i.val]?.map Prod.fst =
        (playAll start calls)[(σ i).val]?.map Prod.fst) ∧
      totals start (reordered calls σ) = totals start calls) ∧
    ∀ lent : List (Lender × Call),
      playLent .zero lent = playAll .zero (lent.map fun (lender, call) => (lender 0, call)) := by
  refine ⟨fun i => ?_, fun σ => ⟨fun i => ?_, ?_⟩, playLent_eq .zero⟩
  · have played := getElem?_playAll start calls i
    rw [List.getElem?_eq_getElem i.isLt, Option.map_some, Option.map_eq_some_iff] at played
    obtain ⟨⟨t, after⟩, at_i, same⟩ := played
    refine ⟨t, after, at_i, ?_⟩
    cases same
    rfl
  · rw [getElem?_playAll, getElem?_playAll, getElem?_reordered]
  · rw [totals_eq, totals_eq]
    exact start.countAll_perm ((reordered_perm calls σ).flatMap_right eventsAlone)

end Call

end AccessNotices
