import GatedStore.Proofs.Answers
import GatedStore.Proofs.BodyTexts
import GatedStore.Proofs.ServiceSteps
import GatedStore.Store.Script

/-! What a desk asks of its partner, whatever the partner is and whatever it answers: nothing when the caller
is turned away or the call cannot be read, and otherwise one request, whose answer alone decides. -/

namespace GatedStore

open Resource (schema)
open Results

/-- The same partner, with a log of the requests that reach it. -/
def Send.logged {S : Schema} {σ : Type} (send : Send S σ) : Send S (σ × List (Request S)) := fun r s =>
  let (a, s') := send r s.1
  (a, s', s.2 ++ [r])

theorem Policy.require_eq_error_iff {policy : Policy} {caller : Principal} {required : Option Permission}
    {f : Forbidden} :
    policy.require caller required = .error f ↔
      required = some f.permission ∧ policy.check caller f.permission = .denied := by
  cases required with
  | none => exact iff_of_false (fun h => by cases h) (fun h => by cases h.1)
  | some q =>
    rw [require]
    constructor
    · intro h
      split at h
      · cases h
      · rename_i hcheck
        cases h
        exact ⟨rfl, hcheck⟩
    · rintro ⟨hq, hcheck⟩
      cases hq
      rw [hcheck]

namespace Desk

inductive Misreads (kind : Kind) (params : Pattern.Params) (body : List UInt8) : Operation → Failure → Prop
  | detail {raw : String} {e : Text.NumeralError} (hraw : (params.get? "id").getD "" = raw)
      (hid : ResourceId.read raw = .error e) : Misreads kind params body .detail (.resourceNotFound kind raw)
  | create {p : Body.Problem} (hbody : Body.payload body = .error p) :
      Misreads kind params body .create (.invalidPayload p.message)
  | edit {p : Body.Problem} (hbody : Body.edit body = .error p) :
      Misreads kind params body .edit (.invalidPayload p.message)
  | remove {p : Body.Problem} (hbody : Body.remove body = .error p) :
      Misreads kind params body .remove (.invalidPayload p.message)

/-- The request that a call asks for, by what stands in its path and in its body. -/
inductive Asks (kind : Kind) (params : Pattern.Params) (body : List UInt8) : Operation → Request schema → Prop
  | list : Asks kind params body .list .list
  | detail {id : ResourceId} (hid : ResourceId.read ((params.get? "id").getD "") = .ok id) :
      Asks kind params body .detail (.get id)
  | create {p : Payload} (hbody : Body.HoldsPayload body p) : Asks kind params body .create (.create ⟨kind, p⟩)
  | edit {id : ResourceId} {p : Payload} (hbody : Body.HoldsEdit body id p) :
      Asks kind params body .edit (.update id p)
  | remove {ids : List ResourceId} (hbody : Body.HoldsIds body ids) : Asks kind params body .remove (.remove ids)

variable {kind : Kind} {params : Pattern.Params} {body : List UInt8} {op : Operation} {f : Failure}

theorem asks_iff {r : Request schema} : Asks kind params body op r ↔ Reads kind params body op r := by
  constructor
  · intro h
    cases h with
    | list => exact .list
    | detail hid => exact .detail (mapError_eq_ok_iff.mpr hid)
    | create hbody => exact .create (Body.holdsPayload_iff.mp hbody)
    | edit hbody => exact .edit (Body.holdsEdit_iff.mp hbody)
    | remove hbody => exact .remove (Body.holdsIds_iff.mp hbody)
  · intro h
    cases h with
    | list => exact .list
    | detail hid => exact .detail (mapError_eq_ok_iff.mp hid)
    | create hbody => exact .create (Body.holdsPayload_iff.mpr hbody)
    | edit hbody => exact .edit (Body.holdsEdit_iff.mpr hbody)
    | remove hbody => exact .remove (Body.holdsIds_iff.mpr hbody)

theorem ofBody_map_eq_error_iff {α β : Type} {x : Except Body.Problem α} {g : α → β} :
    (ofBody x).map g = .error f ↔ ∃ p, x = .error p ∧ .invalidPayload p.message = f := by
  rw [map_eq_error_iff, ofBody, mapError_eq_error_iff]

theorem misreads_iff : Misreads kind params body op f ↔ storeRequest kind params body op = .error f := by
  constructor
  · intro h
    cases h with
    | detail hraw hid => rw [storeRequest, pathId, hraw, hid]; rfl
    | create hbody => exact ofBody_map_eq_error_iff.mpr ⟨_, hbody, rfl⟩
    | edit hbody => exact ofBody_map_eq_error_iff.mpr ⟨_, hbody, rfl⟩
    | remove hbody => exact ofBody_map_eq_error_iff.mpr ⟨_, hbody, rfl⟩
  · intro h
    cases op with
    | list => cases h
    | detail =>
      obtain ⟨e, hid, rfl⟩ := mapError_eq_error_iff.mp (map_eq_error_iff.mp h)
      exact .detail rfl hid
    | create =>
      obtain ⟨p, hbody, rfl⟩ := ofBody_map_eq_error_iff.mp h
      exact .create hbody
    | edit =>
      obtain ⟨p, hbody, rfl⟩ := ofBody_map_eq_error_iff.mp h
      exact .edit hbody
    | remove =>
      obtain ⟨p, hbody, rfl⟩ := ofBody_map_eq_error_iff.mp h
      exact .remove hbody

theorem misreads_or_asks (kind : Kind) (params : Pattern.Params) (body : List UInt8) (op : Operation) :
    (∃ f, Misreads kind params body op f) ∨ ∃ r, Asks kind params body op r := by
  cases h : storeRequest kind params body op with
  | error f => exact Or.inl ⟨f, misreads_iff.mpr h⟩
  | ok r => exact Or.inr ⟨r, asks_iff.mpr (reads_iff.mpr h)⟩

theorem conclude_internal {r : Request schema} {e : StoreError schema.Refusal} (he : ∀ id, e ≠ .notFound id) :
    conclude kind r (.error e) = .error (.internal (e.message id)) := by
  cases e with
  | notFound id => exact absurd rfl (he id)
  | closed | dropped | duplicateId _ | idsExhausted | refused _ => rfl

theorem conclude_cases (kind : Kind) (r : Request schema) :
    (∀ reply, ∃ v, conclude kind r (.ok reply) = .ok v ∧ Delivers r reply v) ∧
      (∀ id, conclude kind r (.error (.notFound id)) = .error (.resourceNotFound kind id)) ∧
      ∀ e, (∀ id, e ≠ .notFound id) → conclude kind r (.error e) = .error (.internal (e.message id)) :=
  ⟨fun reply => ⟨_, rfl, delivers_replyJson r reply⟩, fun _ => rfl, fun _ he => conclude_internal he⟩

section

variable {σ : Type} (d : Desk) (send : Send schema σ) {caller : Principal} {required : Option Permission}

theorem handle_of_denied {f : Forbidden} (hgate : d.gate caller required = .error f) (op : Operation)
    (params : Pattern.Params) (body : List UInt8) (s : σ) :
    d.handle send caller required op params body s = (.error (.permissionDenied f.permission), s) := by
  rw [handle, hgate]
  rfl

theorem handle_of_misreads (hgate : d.gate caller required = .ok ()) (h : Misreads d.kind params body op f)
    (s : σ) : d.handle send caller required op params body s = (.error f, s) := by
  rw [handle, hgate]
  simp only [misreads_iff.mp h]

theorem handle_of_asks (hgate : d.gate caller required = .ok ()) {r : Request schema}
    (h : Asks d.kind params body op r) (s : σ) :
    d.handle send caller required op params body s = (conclude d.kind r (send r s).1, (send r s).2) := by
  rw [handle, hgate]
  simp only [reads_iff.mp (asks_iff.mp h)]

end

theorem handle_once {σ : Type} (d : Desk) (send : Send schema σ) (caller : Principal)
    (required : Option Permission) (op : Operation) (params : Pattern.Params) (body : List UInt8) (s : σ) :
    let out := d.handle send.logged caller required op params body (s, [])
    d.handle send caller required op params body s = (out.1, out.2.1) ∧
    (out.2.2 = [] ↔ (∃ f, d.gate caller required = .error f) ∨ ¬ ∃ r, Asks d.kind params body op r) ∧
    (∀ f, d.gate caller required = .error f → out = (.error (.permissionDenied f.permission), s, [])) ∧
    (d.gate caller required = .ok () → (¬ ∃ r, Asks d.kind params body op r) →
      ∃ f, Misreads d.kind params body op f ∧ out = (.error f, s, [])) ∧
    (d.gate caller required = .ok () → ∀ r, Asks d.kind params body op r →
      out = (conclude d.kind r (send r s).1, (send r s).2, [r])) ∧
    (∀ r, (∀ reply, ∃ v, conclude d.kind r (.ok reply) = .ok v ∧ Delivers r reply v) ∧
      (∀ id, conclude d.kind r (.error (.notFound id)) = .error (.resourceNotFound d.kind id)) ∧
      ∀ e, (∀ id, e ≠ .notFound id) → conclude d.kind r (.error e) = .error (.internal (e.message id))) ∧
    ∀ policy : Policy, d.gate = policy.require → ∀ f, d.gate caller required = .error f ↔
      required = some f.permission ∧ policy.check caller f.permission = .denied := by
  intro out
  have hpolicy : ∀ policy : Policy, d.gate = policy.require → ∀ f, d.gate caller required = .error f ↔
      required = some f.permission ∧ policy.check caller f.permission = .denied := by
    intro policy h f
    rw [h, Policy.require_eq_error_iff]
  have hgate : (∃ f, d.gate caller required = .error f) ∨ d.gate caller required = .ok () := by
    cases d.gate caller required with
    | error f => exact Or.inl ⟨f, rfl⟩
    | ok u => exact Or.inr rfl
  rcases hgate with ⟨f, hgate⟩ | hgate
  · have hout : out = (.error (.permissionDenied f.permission), s, []) :=
      d.handle_of_denied send.logged hgate op params body (s, [])
    have hnot : ¬ d.gate caller required = .ok () := fun h => by cases hgate.symm.trans h
    refine ⟨?_, iff_of_true (by rw [hout]) (Or.inl ⟨f, hgate⟩), fun f' hf => ?_, fun h => absurd h hnot,
      fun h => absurd h hnot, conclude_cases d.kind, hpolicy⟩
    · rw [hout, d.handle_of_denied send hgate]
    · cases hgate.symm.trans hf
      exact hout
  have hallowed : ¬ ∃ f, d.gate caller required = .error f := fun ⟨f, hf⟩ => by cases hgate.symm.trans hf
  rcases misreads_or_asks d.kind params body op with ⟨f, hf⟩ | ⟨r, hr⟩
  · have hout : out = (.error f, s, []) := d.handle_of_misreads send.logged hgate hf (s, [])
    have hnot : ¬ ∃ r, Asks d.kind params body op r := fun ⟨r, hr⟩ => by
      cases (misreads_iff.mp hf).symm.trans (reads_iff.mp (asks_iff.mp hr))
    refine ⟨?_, iff_of_true (by rw [hout]) (Or.inr hnot), fun f h => absurd ⟨f, h⟩ hallowed,
      fun _ _ => ⟨f, hf, hout⟩, fun _ r hr => absurd ⟨r, hr⟩ hnot, conclude_cases d.kind, hpolicy⟩
    rw [hout, d.handle_of_misreads send hgate hf]
  · have hout : ∀ r, Asks d.kind params body op r → out = (conclude d.kind r (send r s).1, (send r s).2, [r]) :=
      fun r hr => d.handle_of_asks send.logged hgate hr (s, [])
    refine ⟨?_, iff_of_false (by simp [hout r hr]) (not_or.mpr ⟨hallowed, not_not.mpr ⟨r, hr⟩⟩),
      fun f h => absurd ⟨f, h⟩ hallowed, fun _ h => absurd ⟨r, hr⟩ h, fun _ => hout, conclude_cases d.kind, hpolicy⟩
    rw [hout r hr, d.handle_of_asks send hgate hr]

theorem handle_passes_removed_on :
    let body := Text.Utf8.encode (Json.object [("ids", .array [.ofUInt64 3, .string "1, 3"])]).chars
    let ids : List ResourceId := [3, 1, 3]
    let removed : List ResourceId := [3, 1]
    let script : Script schema := ⟨[.remove ids (.ok removed)], 0⟩
    ∃ v, Desk.handle ⟨.orders, (Policy.always .allowed).require⟩ Script.send.logged .anonymous
        (some ⟨"orders:remove"⟩) .remove Table.empty body (script, []) = (.ok v, ⟨[], 0⟩, [.remove ids]) ∧
      v.member? "removed" = some (.array [.ofUInt64 3, .ofUInt64 1]) := by
  intro body ids removed script
  have hone : Body.PartReads ['1'] (.ok 1) := .id rfl
  have hthree : Body.PartReads [' ', '3'] (.ok 3) := .id rfl
  have htext : Body.Expands (.string "1, 3") (.ok [1, 3]) := .text (.cons hone (.cons hthree .nil))
  have hbody : Body.HoldsIds body ids := by
    refine ⟨_, Json.Reader.ofBytes_chars ⟨⟨trivial, trivial, trivial⟩, trivial⟩ (by decide), ?_⟩
    exact Body.Removal.removes_listed (by simp [Body.IsId]) (List.cons_ne_nil _ _)
      (.cons (.number 3) (.cons htext .nil))
  obtain ⟨-, -, -, -, hasked, -, -⟩ := handle_once ⟨.orders, (Policy.always .allowed).require⟩ Script.send
    .anonymous (some ⟨"orders:remove"⟩) .remove Table.empty body script
  exact ⟨_, hasked rfl _ (.remove hbody), rfl⟩

end Desk

end GatedStore
