import GatedStore.Proofs.StoreSteps
import GatedStore.Store.Line
import Mathlib.Data.List.Induction

/-! Runs of requests and the histories of their answers. A store that is still up got where it is by
effects alone, so that what every effect keeps holds after every run. -/

namespace GatedStore

structure Event (S : Schema) where
  request : Request S
  answer : Answer request

namespace Send

variable {S : Schema} {σ : Type} (send : Send S σ)

def after (s : σ) (rs : List (Request S)) : σ :=
  rs.foldl (fun s r => (send r s).2) s

def history (s : σ) : List (Request S) → List (Event S)
  | [] => []
  | r :: rs => ⟨r, (send r s).1⟩ :: history (send r s).2 rs

theorem after_append (s : σ) (rs rs' : List (Request S)) :
    send.after s (rs ++ rs') = send.after (send.after s rs) rs' :=
  List.foldl_append

theorem history_append (s : σ) (rs rs' : List (Request S)) :
    send.history s (rs ++ rs') = send.history s rs ++ send.history (send.after s rs) rs' := by
  induction rs generalizing s with
  | nil => rfl
  | cons r rs ih =>
    rw [List.cons_append, history, ih, history]
    rfl

theorem map_request_history (s : σ) (rs : List (Request S)) : (send.history s rs).map (·.request) = rs := by
  induction rs generalizing s with
  | nil => rfl
  | cons r rs ih => rw [history, List.map_cons, ih]

theorem exists_of_mem_history {s : σ} {rs : List (Request S)} {e : Event S} (h : e ∈ send.history s rs) :
    ∃ before r, e = ⟨r, (send r (send.after s before)).1⟩ := by
  induction rs generalizing s with
  | nil => cases h
  | cons r rs ih =>
    rcases List.mem_cons.mp h with rfl | h
    · exact ⟨[], r, rfl⟩
    · obtain ⟨before, r', rfl⟩ := ih h
      exact ⟨r :: before, r', rfl⟩

end Send

namespace Line

variable {S : Schema}

theorem send_cases (st : Store S) (r : Request S) :
    (∃ a st', Line.send r (.running st) = (a, .running st') ∧ st.Effect r a st') ∨
      Line.send r (.running st) = (.error .dropped, .closed) := by
  simp only [send]
  cases h : st.answer r with
  | answered a st' => exact Or.inl ⟨a, st', rfl, Store.answer_effect h⟩
  | crashed => exact Or.inr rfl

theorem send_steady (hS : S.Steady) (st : Store S) (r : Request S) :
    ∃ a st', Line.send r (.running st) = (a, .running st') ∧ st.Effect r a st' := by
  obtain ⟨a, st', ha, heff⟩ := Store.exists_effect hS st r
  refine ⟨a, st', ?_, heff⟩
  simp only [send, ha]

theorem effect_of_send {line : Line S} {r : Request S} {st' : Store S}
    (h : (Line.send r line).2 = .running st') :
    ∃ st a, line = .running st ∧ (Line.send r line).1 = a ∧ st.Effect r a st' := by
  cases line with
  | closed => cases h
  | running st =>
    rcases send_cases st r with ⟨a, st₁, hsend, heff⟩ | hsend
    · rw [hsend] at h ⊢
      cases h
      exact ⟨st, a, rfl, rfl, heff⟩
    · rw [hsend] at h
      cases h

theorem after_steady (hS : S.Steady) (st : Store S) (rs : List (Request S)) :
    ∃ st', Line.send.after (.running st) rs = .running st' := by
  induction rs generalizing st with
  | nil => exact ⟨st, rfl⟩
  | cons r rs ih =>
    obtain ⟨a, st₁, hsend, -⟩ := send_steady hS st r
    obtain ⟨st', hafter⟩ := ih st₁
    refine ⟨st', ?_⟩
    rw [← hafter, Send.after, List.foldl_cons, hsend]
    rfl

theorem run_induction {st₀ : Store S} {P : List (Event S) → Store S → Prop} (hstart : P [] st₀)
    (hstep : ∀ {es st r a st'}, P es st → st.Effect r a st' → P (es ++ [⟨r, a⟩]) st')
    {rs : List (Request S)} {st : Store S} (h : Line.send.after (.running st₀) rs = .running st) :
    P (Line.send.history (.running st₀) rs) st := by
  induction rs using List.reverseRecOn generalizing st with
  | nil =>
    cases h
    exact hstart
  | append_singleton rs r ih =>
    rw [Send.after_append] at h
    obtain ⟨st₁, a, hafter, ha, heff⟩ := effect_of_send h
    rw [Send.history_append]
    have hlast : Line.send.history (Line.send.after (.running st₀) rs) [r] = [⟨r, a⟩] := by
      rw [Send.history, ha]
      rfl
    rw [hlast]
    exact hstep (ih hafter) heff

end Line

end GatedStore
