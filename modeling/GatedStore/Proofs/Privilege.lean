import GatedStore.Proofs.Gate
import GatedStore.Proofs.ServiceFailures

/-! A caller who is granted all that another one is gets what the other one gets. Grants are transitive, and
the gate is the only place where the caller matters. -/

namespace GatedStore

namespace Permission

theorem eq_of_parts_eq {p q : Permission} (h : p.parts = q.parts) : p = q := by
  have hp : [':'].intercalate p.parts = p.text.toList := List.intercalate_splitOn ':'
  have hq : [':'].intercalate q.parts = q.text.toList := List.intercalate_splitOn ':'
  have htext : p.text.toList = q.text.toList := by rw [← hp, ← hq, h]
  cases p
  cases q
  exact congrArg mk (String.toList_inj.mp htext)

theorem isWildcard_iff {p : Permission} : p.isWildcard = true ↔ p = ⟨"*"⟩ := by
  cases p
  simp [isWildcard]

theorem partCovers_iff {g w : List Char} : partCovers g w = true ↔ g = ['*'] ∨ g = w := by
  simp [partCovers]

theorem partCovers_trans {a b c : List Char} (hab : partCovers a b = true) (hbc : partCovers b c = true) :
    partCovers a c = true := by
  rw [partCovers_iff] at hab hbc ⊢
  rcases hab with rfl | rfl
  · exact Or.inl rfl
  · exact hbc

theorem partsCover_refl (a : List (List Char)) : partsCover a a = true := by
  induction a with
  | nil => rfl
  | cons g gs ih =>
    have hg : partCovers g g = true := partCovers_iff.mpr (Or.inr rfl)
    simp [partsCover, hg, ih]

theorem partsCover_trans {a b c : List (List Char)} (hab : partsCover a b = true) (hbc : partsCover b c = true) :
    partsCover a c = true := by
  induction a generalizing b c with
  | nil =>
    cases b with
    | nil => exact hbc
    | cons m ms => cases hab
  | cons g gs ih =>
    cases b with
    | nil => cases hab
    | cons m ms =>
      cases c with
      | nil => cases hbc
      | cons w ws =>
        simp only [partsCover, Bool.and_eq_true] at hab hbc ⊢
        exact ⟨partCovers_trans hab.1 hbc.1, ih hab.2 hbc.2⟩

theorem grants_iff {p q : Permission} : p.grants q = true ↔ p = ⟨"*"⟩ ∨ partsCover p.parts q.parts = true := by
  rw [grants, Bool.or_eq_true, Bool.or_eq_true, isWildcard_iff, beq_iff_eq]
  constructor
  · rintro ((h | rfl) | h)
    · exact Or.inl h
    · exact Or.inr (partsCover_refl _)
    · exact Or.inr h
  · rintro (h | h)
    · exact Or.inl (Or.inl h)
    · exact Or.inr h

theorem eq_wildcard_of_partsCover {p : Permission} (h : partsCover p.parts (parts ⟨"*"⟩) = true) : p = ⟨"*"⟩ := by
  have hstar : parts ⟨"*"⟩ = [['*']] := rfl
  apply eq_of_parts_eq
  rw [hstar] at h ⊢
  generalize p.parts = gs at h
  cases gs with
  | nil => cases h
  | cons g gs =>
    simp only [partsCover, Bool.and_eq_true, partCovers_iff, or_self] at h
    obtain ⟨rfl, h⟩ := h
    cases gs with
    | nil => rfl
    | cons _ _ => cases h

theorem grants_refl (p : Permission) : p.grants p = true :=
  grants_iff.mpr (Or.inr (partsCover_refl _))

theorem grants_trans {p q r : Permission} (hpq : p.grants q = true) (hqr : q.grants r = true) :
    p.grants r = true := by
  rw [grants_iff] at hpq hqr ⊢
  rcases hpq with hp | hpq
  · exact Or.inl hp
  · rcases hqr with rfl | hqr
    · exact Or.inl (eq_wildcard_of_partsCover hpq)
    · exact Or.inr (partsCover_trans hpq hqr)

end Permission

namespace Principal

@[simp] theorem mem_held_allow {caller : Principal} {p q : Permission} :
    q ∈ (caller.allow p).held ↔ q = p ∨ q ∈ caller.held := by
  by_cases hq : q = p <;> simp [held, allow, hq]

@[simp] theorem mem_held_allowAll {caller : Principal} {ps : List Permission} {q : Permission} :
    q ∈ (caller.allowAll ps).held ↔ q ∈ ps ∨ q ∈ caller.held := by
  induction ps generalizing caller with
  | nil => simp [allowAll]
  | cons p ps ih =>
    have hstep : caller.allowAll (p :: ps) = (caller.allow p).allowAll ps := rfl
    simp only [hstep, ih, mem_held_allow, List.mem_cons, or_assoc]
    exact or_left_comm

@[simp] theorem held_new (id : String) : (new id).held = [] :=
  rfl

theorem mem_held_new {id : String} {ps : List Permission} {q : Permission} :
    q ∈ ((new id).allowAll ps).held ↔ q ∈ ps := by
  simp

theorem Covers.mono {P Q : Principal} (hPQ : ∀ q ∈ Q.held, P.Covers q) {required : Permission}
    (h : Q.Covers required) : P.Covers required := by
  obtain ⟨q, hq, hgrants⟩ := h
  obtain ⟨p, hp, hpq⟩ := hPQ q hq
  exact ⟨p, hp, Permission.grants_trans hpq hgrants⟩

theorem covers_of_mem {P : Principal} {q : Permission} (h : q ∈ P.held) : P.Covers q :=
  ⟨q, h, q.grants_refl⟩

end Principal

theorem Policy.require_byGrants_mono {P Q : Principal} (hPQ : ∀ q ∈ Q.held, P.Covers q)
    {required : Option Permission} (h : byGrants.require Q required = .ok ()) :
    byGrants.require P required = .ok () := by
  cases required with
  | none => rfl
  | some required =>
    rw [require_eq_ok_iff, check_byGrants_iff] at h ⊢
    exact h.mono hPQ

theorem Desk.handle_of_allowed {σ : Type} {d : Desk} {send : Send Resource.schema σ} {P Q : Principal}
    {required : Option Permission} (hP : d.gate P required = .ok ()) (hQ : d.gate Q required = .ok ())
    (op : Operation) (params : Pattern.Params) (body : List UInt8) (s : σ) :
    d.handle send P required op params body s = d.handle send Q required op params body s := by
  simp only [handle, hP, hQ]

namespace Service

def GoesByGrants (s : Service) : Prop :=
  ∀ kind station, s.stations kind = some station → station.policy = .byGrants

theorem dispatch_of_covers {s : Service} (hs : s.GoesByGrants) {P Q : Principal}
    (hPQ : ∀ q ∈ Q.held, P.Covers q) {method : Method} {path : String} {body : List UInt8}
    (hQ : ∀ p, (s.dispatch ⟨method, path, Q, body⟩).1 ≠ .error (.permissionDenied p)) :
    s.dispatch ⟨method, path, P, body⟩ = s.dispatch ⟨method, path, Q, body⟩ := by
  simp only [dispatch] at hQ ⊢
  cases hx : s.routes.resolve method path with
  | error e => rfl
  | ok x =>
    simp only [hx] at hQ ⊢
    cases hstation : s.stations x.route.endpoint.kind with
    | none => rfl
    | some station =>
      simp only [hstation] at hQ ⊢
      have hpolicy := hs _ _ hstation
      have hgate : station.policy.require Q x.route.permission = .ok () := by
        cases hgate : station.policy.require Q x.route.permission with
        | ok u => rfl
        | error f =>
          refine absurd ?_ (hQ f.permission)
          simp only [Desk.handle, hgate, Failure.ofForbidden]
      have hgate' : station.policy.require P x.route.permission = .ok () := by
        rw [hpolicy] at hgate ⊢
        exact Policy.require_byGrants_mono hPQ hgate
      rw [Desk.handle_of_allowed hgate' hgate]

theorem start_goesByGrants {settings : Settings} {s : Service} (h : Service.start settings .byGrants = .ok s)
    (calls : List Call) : (s.after calls).GoesByGrants := by
  obtain ⟨-, -, routes, -, rfl⟩ := start_eq_ok_iff.mp h
  obtain ⟨stores, hafter, -⟩ := after_running routes .byGrants Resource.sound_ofKind calls
  rw [hafter]
  intro kind station hstation
  cases hstation
  rfl

theorem dispatch_privilege {s : Service} (hs : s.GoesByGrants) (method : Method) (path : String)
    (body : List UInt8) :
    (∀ P Q : Principal, (∀ q ∈ Q.held, ∃ p ∈ P.held, p.grants q = true) →
      (∀ p, (s.dispatch ⟨method, path, Q, body⟩).1 ≠ .error (.permissionDenied p)) →
      s.dispatch ⟨method, path, P, body⟩ = s.dispatch ⟨method, path, Q, body⟩) ∧
    (∀ (i j : String) (ps qs : List Permission), (∀ q ∈ qs, q ∈ ps) →
      (∀ p, (s.dispatch ⟨method, path, (Principal.new j).allowAll qs, body⟩).1 ≠ .error (.permissionDenied p)) →
      s.dispatch ⟨method, path, (Principal.new i).allowAll ps, body⟩ =
        s.dispatch ⟨method, path, (Principal.new j).allowAll qs, body⟩) := by
  refine ⟨fun P Q hPQ hQ => dispatch_of_covers hs hPQ hQ, fun i j ps qs hsub hQ => ?_⟩
  refine dispatch_of_covers hs (fun q hq => Principal.covers_of_mem ?_) hQ
  exact Principal.mem_held_new.mpr (hsub q (Principal.mem_held_new.mp hq))

theorem dispatch_wildcard_like_exact_grant :
    let clerk := (Principal.new "clerk").allow ⟨"orders:add"⟩
    let admin := (Principal.new "admin").allow ⟨"*:*"⟩
    ∃ s, Service.start ⟨"/\x7borg\x7d", 32, "info"⟩ .byGrants = .ok s ∧ s.GoesByGrants ∧
      s.dispatch ⟨.post, "/acme/orders/create", admin, [0x7B, 0x7D]⟩ =
        s.dispatch ⟨.post, "/acme/orders/create", clerk, [0x7B, 0x7D]⟩ := by
  intro clerk admin
  have hrun : ((Service.start ⟨"/\x7borg\x7d", 32, "info"⟩ .byGrants).service?.any fun s =>
      (s.dispatch ⟨.post, "/acme/orders/create", clerk, [0x7B, 0x7D]⟩).1.toOption.isSome) = true := by
    decide +kernel
  obtain ⟨s, hs, hrun⟩ := Startup.exists_ok_of_any hrun
  have hgoes : s.GoesByGrants := start_goesByGrants hs []
  have hcovers : ∀ q ∈ clerk.held, ∃ p ∈ admin.held, p.grants q = true := by decide +kernel
  refine ⟨s, hs, hgoes, (dispatch_privilege hgoes _ _ _).1 admin clerk hcovers fun p hp => ?_⟩
  rw [hp] at hrun
  cases hrun

end Service

end GatedStore
