import FlyNes.LanRuns

namespace FlyNes.LanMvp

open Wire (Kind Message)

/-!
# The end of a session is final

Handlers keep running after a failed submission has ended their session.  What
they still do reaches neither the runtime nor the provider, and no run follows
a null pointer.
-/

/-- The exchanges `end` has with the provider. -/
def Traffic.Closes : Traffic → Prop
  | .cancel _ => True
  | .close _ _ => True
  | _ => False

/-- Exactly the exchanges of `end` happen in the ended state. -/
def Tagged (traffic : List (State × Traffic)) : Prop :=
  ∀ entry ∈ traffic, entry.1 = .ended ↔ entry.2.Closes

namespace Tagged

theorem append
    {first second : List (State × Traffic)}
    (firstTagged : Tagged first)
    (secondTagged : Tagged second) :
    Tagged (first ++ second) := by
  intro entry member
  rcases List.mem_append.mp member with inFirst | inSecond
  · exact firstTagged entry inFirst
  · exact secondTagged entry inSecond

variable {traffic : List (State × Traffic)}

theorem of_closing
    (closing : Closing traffic) :
    Tagged traffic := by
  intro entry member
  rcases closing entry member with ⟨operation, rfl⟩ |
    ⟨operation, resource, rfl⟩ <;>
    simp [Traffic.Closes]

theorem of_hands
    {channel : Channel}
    (hands : Hands channel traffic) :
    Tagged traffic := by
  rcases hands with rfl | ⟨state, operation, bytes, rest, alive, _, _, rfl⟩
  · intro entry member
    cases member
  · intro entry member
    rw [List.mem_singleton.mp member]
    simp [Traffic.Closes, alive]

theorem single
    {state : State}
    {exchange : Traffic}
    (alive : state ≠ .ended)
    (opens : ¬ exchange.Closes) :
    Tagged [(state, exchange)] := by
  intro entry member
  rw [List.mem_singleton.mp member]
  simp [alive, opens]

end Tagged

/-- What a history says about null pointers and the end. -/
theorem sound_of_follow
    {log : List Effect}
    {source target : State}
    (follow : log.foldlM Effect.next source = some target) :
    (∀ pointer, Effect.nullDereference pointer ∉ log) ∧
      (source = .ended → log = []) ∧
      ∀ earlier left later,
        log = earlier ++ .moved left .ended :: later → later = [] := by
  induction log generalizing source with
  | nil =>
      refine ⟨by simp, fun _ => rfl, ?_⟩
      intro earlier left later shape
      simp at shape
  | cons effect rest inductionHypothesis =>
      rw [List.foldlM_cons] at follow
      cases step : effect.next source with
      | none =>
          simp [step] at follow
      | some middle =>
          rw [step] at follow
          obtain ⟨valid, ended, final⟩ := inductionHypothesis follow
          have alive : source ≠ .ended := by
            rintro rfl
            cases effect <;> simp [Effect.next] at step
          refine ⟨?_, fun isEnded => absurd isEnded alive, ?_⟩
          · intro pointer member
            rcases List.mem_cons.mp member with rfl | later
            · simp [Effect.next] at step
            · exact valid pointer later
          · intro earlier left later shape
            cases earlier with
            | nil =>
                simp only [List.nil_append, List.cons.injEq] at shape
                obtain ⟨rfl, rfl⟩ := shape
                have isEnded : middle = .ended := by
                  simp only [Effect.next] at step
                  split at step
                  · exact (Option.some.inj step).symm
                  · cases step
                exact ended isEnded
            | cons first earlier =>
                simp only [List.cons_append, List.cons.injEq] at shape
                exact final earlier left later shape.2

namespace Move

variable
  {R : Type}
  {env : Env R}
  {label : Label}
  {station after : Station R}

/-- Every exchange carries the state it happened in. -/
theorem tagged
    (move : Move env label station after)
    (before : Tagged station.channel.traffic) :
    Tagged after.channel.traffic := by
  cases move with
  | stop decoder handed closing acted sound begun ended takes sendable suffix
      operations traffic hands closes =>
      rw [traffic]
      exact (before.append (Tagged.of_hands hands)).append
        (Tagged.of_closing closes)
  | garbled closing acted begun invalid suffix operations traffic closes =>
      rw [traffic]
      exact before.append (Tagged.of_closing closes)
  | dead acted ended operations traffic =>
      rw [traffic]
      exact before
  | write state begun open' queued lowered stream =>
      exact before.append (Tagged.single open' id)
  | read state begun open' lowered stream =>
      exact before.append (Tagged.single open' id)
  | setup call role target invite idle unopened side empty =>
      refine before.append (Tagged.single ?_ id)
      rcases side with ⟨_, rfl, _⟩ | ⟨_, rfl, _⟩ <;> simp
  | prepared call invite deadline idle begun waiting pending order token
      empty =>
      exact before.append (Tagged.single begun id)
  | turned state operation call begun open' =>
      exact before.append (Tagged.single open' id)
  | arrived begun waiting pending ok =>
      exact before.append (Tagged.single begun id)
  | _ =>
      exact before

/-- After the end a move changes nothing that can be observed. -/
theorem of_ended
    (move : Move env label station after)
    (orderly : station.Orderly)
    (ended : station.party.game.state = .ended) :
    after.party.game.state = .ended ∧
      after.party.game.reason = station.party.game.reason ∧
      after.party.log = station.party.log ∧
      after.channel.traffic = station.channel.traffic := by
  cases move with
  | dead acted _ operations traffic =>
      obtain ⟨_, _, log, stillEnded, reason, _⟩ :=
        acted.of_ended ended orderly.stopped
      exact ⟨stillEnded, reason, log, traffic⟩
  | dropped waiting gone =>
      exact ⟨ended, rfl, rfl, rfl⟩
  | setup call role target invite idle unopened side empty =>
      simp [ended] at unopened
  | _ =>
      contradiction

end Move

namespace Endpoint

variable {R : Type}

/-- Once a session has ended, no call and no completion changes it. -/
theorem final_of_ended
    {env : Env R}
    {endpoint : Endpoint R}
    (orderly : endpoint.station.Orderly)
    (ended : endpoint.session.state = .ended)
    (more : List Call) :
    let after := more.foldl (fun endpoint call => endpoint.call env call) endpoint
    after.station.Orderly ∧
      after.session.state = .ended ∧
      after.session.reason = endpoint.session.reason ∧
      after.session.log = endpoint.session.log ∧
      after.session.traffic = endpoint.session.traffic := by
  induction more using List.reverseRecOn with
  | nil =>
      exact ⟨orderly, ended, rfl, rfl, rfl⟩
  | append_singleton more call inductionHypothesis =>
      obtain ⟨middleOrderly, inductionHypothesis⟩ := inductionHypothesis
      rw [List.foldl_append]
      refine call_invariant env
        (fun station =>
          station.party.game.state = .ended ∧
            station.party.game.reason = endpoint.session.reason ∧
            station.party.log = endpoint.session.log ∧
            station.channel.traffic = endpoint.session.traffic)
        ?_ (fun _ _ holds => holds) middleOrderly inductionHypothesis call
      rintro label first second firstOrderly ⟨firstEnded, reason, log, traffic⟩
        move
      obtain ⟨secondEnded, sameReason, sameLog, sameTraffic⟩ :=
        move.of_ended firstOrderly firstEnded
      exact ⟨secondEnded, sameReason.trans reason, sameLog.trans log,
        sameTraffic.trans traffic⟩

/--
For every run and every continuation of it: the run has followed no null
pointer, nothing was recorded after the end and the only exchanges with the
provider in the ended state are those of `end`; and a session that has ended
keeps its state, reason and whole history and holds no game.
-/
theorem ended_is_final
    (env : Env R)
    (calls more : List Call) :
    let before := (run env calls).session
    let after := (run env (calls ++ more)).session
    (∀ pointer, .nullDereference pointer ∉ before.log) ∧
      (∀ earlier source later,
        before.log = earlier ++ .moved source .ended :: later →
        later = []) ∧
      (∀ exchange, (.ended, exchange) ∈ before.traffic → exchange.Closes) ∧
      (before.state = .ended →
        after.state = .ended ∧
          after.reason = before.reason ∧
          after.runtime = none ∧
          after.inputs = none ∧
          after.log = before.log ∧
          after.traffic = before.traffic) := by
  intro before after
  obtain ⟨orderly, tagged⟩ :=
    run_invariant env (fun station => Tagged station.channel.traffic)
      (fun label first second _ tagged move => move.tagged tagged)
      (fun first event tagged => tagged)
      (fun entry member => by cases member) calls
  obtain ⟨valid, _, final⟩ := sound_of_follow orderly.chronicled
  refine ⟨valid, final, ?_, ?_⟩
  · intro exchange member
    exact (tagged _ member).mp rfl
  · intro ended
    have shape :
        run env (calls ++ more) =
          more.foldl (fun endpoint call => endpoint.call env call)
            (run env calls) := by
      simp [run]
    obtain ⟨afterOrderly, afterEnded, reason, log, traffic⟩ :=
      final_of_ended orderly ended more
    rw [← shape] at afterOrderly afterEnded reason log traffic
    obtain ⟨unloaded, empty⟩ := afterOrderly.stopped afterEnded
    exact ⟨afterEnded, reason, unloaded, empty, log, traffic⟩

end Endpoint

end FlyNes.LanMvp
