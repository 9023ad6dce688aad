import VoiceSkill.Writer

/-!
# Runs of a writer

Artifacts are written one after the other: an artifact that cannot be written ends the run, and
after one that was written the run goes on with the others. Writing all of them is such a run, and
gives their number at its end.
-/

namespace VoiceSkill

namespace Writer

variable {σ : Type} {writer : Writer (StateM σ)} {artifact : Artifact} {store next : σ}
  {log : List Event}

theorem run_writeEach_cons_of_error {e : WriteError} (rest : List Artifact)
    (h : (writer.write artifact.path artifact.document).run store = (⟨.error e, log⟩, next)) :
    (writer.writeEach (artifact :: rest)).run store = (⟨.error e, log⟩, next) := by
  rw [writeEach, StateT.run_bind, h]
  rfl

theorem run_writeEach_cons_of_ok (rest : List Artifact)
    (h : (writer.write artifact.path artifact.document).run store = (⟨.ok (), log⟩, next)) :
    ((writer.writeEach (artifact :: rest)).run store).1.result =
        ((writer.writeEach rest).run next).1.result ∧
      ((writer.writeEach (artifact :: rest)).run store).2 =
        ((writer.writeEach rest).run next).2 := by
  rw [writeEach, StateT.run_bind, h]
  exact ⟨rfl, rfl⟩

theorem run_writeAll (writer : Writer (StateM σ)) (artifacts : List Artifact) (store : σ) :
    ((writer.writeAll artifacts).run store).1.result =
        ((writer.writeEach artifacts).run store).1.result.map (fun _ => artifacts.length) ∧
      ((writer.writeAll artifacts).run store).2 = ((writer.writeEach artifacts).run store).2 := by
  rw [writeAll, StateT.run_bind]
  -- what is reported around the writing leaves its result as it is
  rcases (writer.writeEach artifacts).run store with ⟨⟨_ | _, _⟩, _⟩ <;> exact ⟨rfl, rfl⟩

end Writer

end VoiceSkill
