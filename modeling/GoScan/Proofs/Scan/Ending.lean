import GoScan.Proofs.Scan.Recording

/-!
# Every scan comes to an end

* `ended_of_answer?`: a call that gives nothing more leaves a scan that has ended;
* `scanning_ends`: the bounds in bytes on the calls of `next` that a loop makes, for every history of a
  scan, and what is left to do at the end.
-/

namespace GoScan

variable {ι : Type} [Interner ι] {g : Grammar}

namespace Scanner

variable {s : Scanner} {table : ι}

/-- A call that gives nothing more leaves a scan that has ended. -/
theorem ended_of_answer? {p : Scanner × ι} {c : Call} (h : c.answer? g p = some .finished) :
    (c.perform g p).1.Ended := by
  cases c with
  | next =>
    rcases here : p.1.next g p.2 with ⟨answer, s', table', events⟩
    simp only [Call.answer?, Call.perform, Step.state, here] at h ⊢
    rw [Option.some.inj h] at here
    exact ended_of_finished_next here
  | nextRecorded => exact ended_of_concludes (.inr ⟨rfl, Option.some.inj h⟩)
  | analyze => exact ended_of_concludes (.inl rfl)
  | withLocale l => cases h

/-- Every scan comes to an end, whatever its entries match and whatever was called before. A run to the
end calls `next` for at most as many tokens as there are bytes left, and once more, which finds the end
or a failure. A call for a recorded token makes no more calls than that, though all be skipped, and none
after a failure. Once a call has found that there is no more, no call changes the scan or the table that
it finds. -/
theorem scanning_ends (g : Grammar) (source : String) (history : List (Call × ι)) (table : ι) :
    let now := takeTurns g history (ofText source)
    (∃ n last, now.offset + n ≤ source.utf8ByteSize ∧ Loops g (fun _ => True) n now table last ∧
      (last.answer = .finished ∨ ∃ f, last.answer = .failed f) ∧
      now.analyze g table = concluded last) ∧
    ((now.failure = none → ∃ n, now.offset + n ≤ source.utf8ByteSize ∧
        Loops g (·.isSkip) n now table (now.nextRecorded g table)) ∧
      ∀ f, now.failure = some f → now.nextRecorded g table = ⟨.finished, now, table, #[]⟩) ∧
    ∀ c : Call, c.answer? g (now, table) = some .finished → ∀ later : List (Call × ι),
      let ended := (c.perform g (now, table)).1
      let after := takeTurns g later ended
      (∃ l, after = ended.withLocale l) ∧
      ∀ (further : Call) (found : ι),
        further.perform g (after, found) = (after, found) ∨ ∃ l, further = .withLocale l := by
  intro now
  have size : now.offset + Text.byteCount now.rest = source.utf8ByteSize :=
    (Keeps.takeTurns g history).sourceSize_eq
  have bytes := Text.length_le_byteCount now.rest
  refine ⟨?_, ⟨?_, ?_⟩, ?_⟩
  · obtain ⟨n, last, few, loops, run⟩ := exists_loops_analyze g now table
    exact ⟨n, last, by omega, loops, loops.ends, run⟩
  · intro unfailed
    obtain ⟨n, few, loops⟩ := exists_loops_nextRecorded g table unfailed
    exact ⟨n, by omega, loops⟩
  · intro f failed
    rw [nextRecorded, failed]
    rfl
  · intro c nothing later ended after
    have isOver : ended.Ended := ended_of_answer? nothing
    obtain ⟨l, here⟩ : ∃ l, after = ended.withLocale l := takeTurns_of_ended isOver later
    refine ⟨⟨l, here⟩, ?_⟩
    intro further found
    have still : after.Ended := here ▸ isOver.withLocale l
    exact perform_eq_of_ended found still further

/-- Entries that match nothing, lazily or at an anchor, hold up no scan, not even where all that is
read is skipped. -/
example :
    (Grammar.compile [⟨"lazy", "a*?", .id⟩, ⟨"anchor", "^", .skip⟩, ⟨"space", "\\s", .skip⟩]).toOption.map
      (fun g =>
        let step := (ofText "   ").nextRecorded g IdentTable.empty
        (step.answer, step.events.size)) = some (.finished, 3) := by
  decide +kernel

end Scanner

end GoScan
