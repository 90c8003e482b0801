import GatedStore.Proofs.SkippedScalars

/-! What can be read can be passed over: a value that nobody asked for is left behind at the byte where
reading it would have ended. -/

namespace GatedStore.Json.Reader

open Results

def resume (stack : List Open) (fuel : Nat) (s : List UInt8) : Except Fault (List UInt8) := do
  let (stack, s) ← leave stack s
  if stack = [] then .ok s else skipLoop stack fuel s

def Passes {α : Type} (read : Reader α) : Prop :=
  ∀ ⦃s a s'⦄, read s = .ok (a, s') → ∃ n, n + s'.length < s.length ∧
    ∀ stack fuel, skipLoop stack (n + 1 + fuel) s = resume stack fuel s'

inductive Passed (s : List UInt8) : Found → List UInt8 → Prop
  | scalar {found : Found} {s' : List UInt8} (hlist : found ≠ .sequence) (hobject : found ≠ .map)
      (hlength : s'.length < s.length) (hstep : ∀ stack, skipStep stack s = leave stack s') : Passed s found s'
  | list {s' : List UInt8} (hlength : s'.length < s.length)
      (hstep : ∀ stack, skipStep stack s = enter .list stack s') : Passed s .sequence ('['.toUInt8 :: s')
  | object {s' : List UInt8} (hlength : s'.length < s.length)
      (hstep : ∀ stack, skipStep stack s = enter .object stack s') : Passed s .map ('\x7b'.toUInt8 :: s')

variable {s s' : List UInt8}

theorem passed_of_head {found : Found} (h : head s = .ok (found, s')) : Passed s found s' := by
  have hle := length_skipBlanks s
  cases hs : skipBlanks s with
  | nil =>
    rw [head, hs] at h
    cases h
  | cons b rest =>
    rw [hs, List.length_cons] at hle
    simp only [head, hs] at h
    have hscalar {found : Found} {x : Except Fault (List UInt8)} (hlist : found ≠ .sequence)
        (hobject : found ≠ .map) (hx : x = .ok s') (hlength : s'.length ≤ rest.length)
        (hstep : ∀ stack, skipStep stack s = x >>= leave stack) : Passed s found s' := by
      refine .scalar hlist hobject (by omega) fun stack => ?_
      rw [hstep, hx]
      rfl
    have hletters {known : Found} {cs : List Char} (h : (known, ·) <$> word cs rest = .ok (found, s'))
        (hlist : known ≠ .sequence) (hobject : known ≠ .map)
        (hstep : ∀ stack, skipStep stack s = word cs rest >>= leave stack) : Passed s found s' := by
      obtain ⟨_, hword, heq⟩ := map_eq_ok_iff.mp h
      cases heq
      exact hscalar hlist hobject hword (length_word hword) hstep
    by_cases hn : b = 'n'.toUInt8
    · rw [if_pos hn] at h
      subst hn
      exact hletters h nofun nofun fun stack => by rw [skipStep, hs]; rfl
    rw [if_neg hn] at h
    by_cases ht : b = 't'.toUInt8
    · rw [if_pos ht] at h
      subst ht
      exact hletters h nofun nofun fun stack => by rw [skipStep, hs]; rfl
    rw [if_neg ht] at h
    by_cases hf : b = 'f'.toUInt8
    · rw [if_pos hf] at h
      subst hf
      exact hletters h nofun nofun fun stack => by rw [skipStep, hs]; rfl
    rw [if_neg hf] at h
    by_cases hminus : b = '-'.toUInt8
    · rw [if_pos hminus] at h
      subst hminus
      obtain ⟨_, hnumber, heq⟩ := map_eq_ok_iff.mp h
      cases heq
      have hskip := skipNumber_of_number hnumber
      have hlength := Nat.le_of_lt (length_skipNumber hskip)
      exact hscalar nofun nofun hskip hlength fun stack => by rw [skipStep, hs]; rfl
    rw [if_neg hminus] at h
    by_cases hb : isDigit b = true
    · rw [if_pos hb] at h
      obtain ⟨_, hnumber, heq⟩ := map_eq_ok_iff.mp h
      cases heq
      have hskip := skipNumber_of_number hnumber
      have hbracket : b ≠ '['.toUInt8 := ne_of_isDigit hb rfl
      have hbrace : b ≠ '\x7b'.toUInt8 := ne_of_isDigit hb rfl
      refine hscalar nofun nofun hskip (Nat.le_of_lt_succ (length_skipNumber hskip)) fun stack => ?_
      simp only [skipStep, hs, if_neg hbracket, if_neg hbrace, if_neg hn, if_neg ht, if_neg hf, if_neg hminus,
        if_pos hb]
    rw [if_neg hb] at h
    by_cases hquote : b = '"'.toUInt8
    · rw [if_pos hquote] at h
      subst hquote
      obtain ⟨_, hstring, heq⟩ := map_eq_ok_iff.mp h
      cases heq
      have hskip := skipString_of_string hstring
      have hlength := Nat.le_of_lt (length_skipString hskip)
      exact hscalar nofun nofun hskip hlength fun stack => by rw [skipStep, hs]; rfl
    rw [if_neg hquote] at h
    by_cases hlist : b = '['.toUInt8
    · rw [if_pos hlist] at h
      subst hlist
      cases h
      exact .list hle fun stack => by rw [skipStep, hs]; rfl
    rw [if_neg hlist] at h
    by_cases hobject : b = '\x7b'.toUInt8
    · rw [if_pos hobject] at h
      subst hobject
      cases h
      exact .object hle fun stack => by rw [skipStep, hs]; rfl
    rw [if_neg hobject] at h
    cases h

@[simp] theorem skipBlanks_skipBlanks (s : List UInt8) : skipBlanks (skipBlanks s) = skipBlanks s := by
  cases hs : skipBlanks s with
  | nil => rfl
  | cons b rest =>
    have hb : isBlank b = false := by
      have hhead := List.head?_dropWhile_not isBlank s
      rw [show s.dropWhile isBlank = b :: rest from hs] at hhead
      exact hhead
    rw [skipBlanks, List.dropWhile_cons_of_neg (by simp [hb])]

theorem skipLoop_skipBlanks (stack : List Open) (fuel : Nat) (s : List UInt8) :
    skipLoop stack (fuel + 1) (skipBlanks s) = skipLoop stack (fuel + 1) s := by
  rw [skipLoop, skipLoop, skipStep, skipStep, skipBlanks_skipBlanks]

section Containers

variable {more : Bool} {s₁ : List UInt8}

theorem anotherItem_first_cases (h : anotherItem true s = .ok (more, s₁)) :
    skipBlanks s = s₁ ∧ ∃ b rest, s₁ = b :: rest ∧ (more = false ↔ b = ']'.toUInt8) := by
  rw [anotherItem] at h
  split at h
  · cases h
  rename_i b rest hs
  split at h
  · rename_i hend
    cases h
    exact ⟨hs, b, rest, rfl, iff_of_true rfl hend⟩
  · rename_i hend
    cases h
    exact ⟨hs, b, rest, rfl, iff_of_false nofun hend⟩

theorem anotherItem_next_cases (h : anotherItem false s = .ok (more, s₁)) :
    (more = false ∧ skipBlanks s = s₁ ∧ ∃ rest, s₁ = ']'.toUInt8 :: rest) ∨
      more = true ∧ ∃ rest, skipBlanks s = ','.toUInt8 :: rest ∧ skipBlanks rest = s₁ := by
  rw [anotherItem] at h
  split at h
  · cases h
  rename_i b rest hs
  by_cases hend : b = ']'.toUInt8
  · rw [if_pos hend] at h
    cases h
    exact Or.inl ⟨rfl, hs, rest, by rw [hend]⟩
  rw [if_neg hend] at h
  simp only [Bool.false_eq_true, if_false] at h
  by_cases hcomma : b = ','.toUInt8
  · rw [if_pos hcomma] at h
    split at h
    · cases h
    rename_i c rest' hrest
    split at h
    · cases h
    · cases h
      exact Or.inr ⟨rfl, rest, by rw [hs, hcomma], hrest⟩
  · rw [if_neg hcomma] at h
    cases h

theorem anotherMember_first_cases (h : anotherMember true s = .ok (more, s₁)) :
    skipBlanks s = s₁ ∧ ((more = false ∧ ∃ rest, s₁ = '\x7d'.toUInt8 :: rest) ∨
      more = true ∧ ∃ rest, s₁ = '"'.toUInt8 :: rest) := by
  rw [anotherMember] at h
  split at h
  · cases h
  rename_i b rest hs
  by_cases hend : b = '\x7d'.toUInt8
  · rw [if_pos hend] at h
    cases h
    exact ⟨hs, Or.inl ⟨rfl, rest, by rw [hend]⟩⟩
  rw [if_neg hend] at h
  simp only [if_true] at h
  split at h
  · rename_i hquote
    cases h
    exact ⟨hs, Or.inr ⟨rfl, rest, by rw [hquote]⟩⟩
  · cases h

theorem anotherMember_next_cases (h : anotherMember false s = .ok (more, s₁)) :
    (more = false ∧ skipBlanks s = s₁ ∧ ∃ rest, s₁ = '\x7d'.toUInt8 :: rest) ∨
      more = true ∧ ∃ rest rest', skipBlanks s = ','.toUInt8 :: rest ∧ skipBlanks rest = s₁ ∧
        s₁ = '"'.toUInt8 :: rest' := by
  rw [anotherMember] at h
  split at h
  · cases h
  rename_i b rest hs
  by_cases hend : b = '\x7d'.toUInt8
  · rw [if_pos hend] at h
    cases h
    exact Or.inl ⟨rfl, hs, rest, by rw [hend]⟩
  rw [if_neg hend] at h
  simp only [Bool.false_eq_true, if_false] at h
  by_cases hcomma : b = ','.toUInt8
  · rw [if_pos hcomma] at h
    split at h
    · cases h
    rename_i c rest' hrest
    split at h
    · rename_i hquote
      cases h
      exact Or.inr ⟨rfl, rest, rest', by rw [hs, hcomma], hrest, by rw [hquote]⟩
    split at h <;> cases h
  · rw [if_neg hcomma] at h
    cases h

variable {read : Reader Json} {fuel : Nat}

theorem resume_items (hread : Passes read) {vs : List Json} (h : items read false fuel s = .ok (vs, s')) :
    ∃ n rest, s' = ']'.toUInt8 :: rest ∧ n + rest.length < s.length ∧
      ∀ stack k, resume (.list :: stack) (n + k) s = resume stack k rest := by
  induction fuel generalizing s vs with
  | zero => cases h
  | succ fuel ih =>
    have hle := length_skipBlanks s
    obtain ⟨⟨more, s₁⟩, hmore, h⟩ := bind_eq_ok_iff.mp h
    rcases anotherItem_next_cases hmore with ⟨rfl, hs, rest, rfl⟩ | ⟨rfl, rest, hs, hrest⟩
    · cases h
      rw [hs, List.length_cons] at hle
      refine ⟨0, rest, rfl, by omega, fun stack k => ?_⟩
      rw [resume, leave, hs, Nat.zero_add]
      rfl
    · obtain ⟨⟨v, s₂⟩, hv, h⟩ := bind_eq_ok_iff.mp h
      obtain ⟨⟨vs', s₃⟩, hvs, h⟩ := bind_eq_ok_iff.mp h
      cases h
      obtain ⟨n, hn, hpass⟩ := hread hv
      obtain ⟨n', rest', rfl, hn', hresume⟩ := ih hvs
      have hblanks := length_skipBlanks rest
      rw [hs, List.length_cons] at hle
      rw [hrest] at hblanks
      refine ⟨n + 1 + n', rest', rfl, by omega, fun stack k => ?_⟩
      have hstart : resume (.list :: stack) (n + 1 + n' + k) s =
          skipLoop (.list :: stack) (n + 1 + n' + k) rest := by
        rw [resume, leave, hs]
        rfl
      have harrange : n + 1 + n' + k = n + (n' + k) + 1 := by omega
      rw [hstart, harrange, ← skipLoop_skipBlanks, hrest, ← hresume stack k, ← hpass]
      congr 1
      omega

theorem resume_members (hread : Passes read) {ms : List (String × Json)}
    (h : members read false fuel s = .ok (ms, s')) :
    ∃ n rest, s' = '\x7d'.toUInt8 :: rest ∧ n + rest.length < s.length ∧
      ∀ stack k, resume (.object :: stack) (n + k) s = resume stack k rest := by
  induction fuel generalizing s ms with
  | zero => cases h
  | succ fuel ih =>
    have hle := length_skipBlanks s
    obtain ⟨⟨more, s₁⟩, hmore, h⟩ := bind_eq_ok_iff.mp h
    rcases anotherMember_next_cases hmore with ⟨rfl, hs, rest, rfl⟩ | ⟨rfl, rest, quoted, hs, hrest, rfl⟩
    · cases h
      rw [hs, List.length_cons] at hle
      refine ⟨0, rest, rfl, by omega, fun stack k => ?_⟩
      rw [resume, leave, hs, Nat.zero_add]
      rfl
    · obtain ⟨⟨name, s₂⟩, hname, h⟩ := bind_eq_ok_iff.mp h
      obtain ⟨s₃, hcolon, h⟩ := bind_eq_ok_iff.mp h
      obtain ⟨⟨v, s₄⟩, hv, h⟩ := bind_eq_ok_iff.mp h
      obtain ⟨⟨ms', s₅⟩, hms, h⟩ := bind_eq_ok_iff.mp h
      cases h
      obtain ⟨n, hn, hpass⟩ := hread hv
      obtain ⟨n', rest', rfl, hn', hresume⟩ := ih hms
      have hskip : skipString .plain quoted = .ok s₂ := skipString_of_string hname
      have hnext : Open.object.next rest = .ok s₃ := by
        rw [Open.next, hrest]
        exact bind_eq_ok_iff.mpr ⟨s₂, hskip, hcolon⟩
      have hlengthName := length_skipString hskip
      have hlengthColon := length_colon hcolon
      have hblanks := length_skipBlanks rest
      rw [hs, List.length_cons] at hle
      rw [hrest, List.length_cons] at hblanks
      refine ⟨n + 1 + n', rest', rfl, by omega, fun stack k => ?_⟩
      have hstart : resume (.object :: stack) (n + 1 + n' + k) s =
          skipLoop (.object :: stack) (n + 1 + n' + k) s₃ := by
        rw [resume, leave, hs]
        simp only [if_true, hnext]
        rfl
      rw [hstart, ← hresume stack k, ← hpass, Nat.add_assoc (n + 1)]

theorem skipLoop_of_listFrom (hread : Passes read) {vs : List Json} {rest : List UInt8}
    (hlength : rest.length < s.length) (hstep : ∀ stack, skipStep stack s = enter .list stack rest)
    (h : listFrom read ('['.toUInt8 :: rest) = .ok (vs, s')) :
    ∃ n, n + s'.length < s.length ∧ ∀ stack k, skipLoop stack (n + 1 + k) s = resume stack k s' := by
  obtain ⟨⟨_, s₁⟩, hitems, h⟩ := bind_eq_ok_iff.mp h
  obtain ⟨_, hclose, h⟩ := bind_eq_ok_iff.mp h
  cases h
  obtain ⟨⟨more, s₂⟩, hmore, hitems⟩ := bind_eq_ok_iff.mp hitems
  obtain ⟨hs, b, rest', rfl, hend⟩ := anotherItem_first_cases hmore
  rw [List.drop_succ_cons, List.drop_zero] at hs
  have hle := length_skipBlanks rest
  rw [hs, List.length_cons] at hle
  cases more with
  | false =>
    obtain rfl := hend.mp rfl
    cases hitems
    cases hclose
    refine ⟨0, by omega, fun stack k => ?_⟩
    rw [Nat.add_comm, skipLoop, hstep, enter, hs]
    rfl
  | true =>
    obtain ⟨⟨v, s₃⟩, hv, hitems⟩ := bind_eq_ok_iff.mp hitems
    obtain ⟨⟨vs', s₄⟩, hvs, hitems⟩ := bind_eq_ok_iff.mp hitems
    cases hitems
    obtain ⟨n, hn, hpass⟩ := hread hv
    obtain ⟨n', rest'', rfl, hn', hresume⟩ := resume_items hread hvs
    cases hclose
    have hne : b ≠ Open.list.closer := fun h => by cases hend.mpr h
    rw [List.length_cons] at hn
    refine ⟨n + 1 + n', by omega, fun stack k => ?_⟩
    have hstart : skipLoop stack (n + 1 + n' + k + 1) s =
        skipLoop (.list :: stack) (n + 1 + n' + k) (b :: rest') := by
      rw [skipLoop, hstep, enter, hs]
      simp only [if_neg hne]
      rfl
    rw [Nat.add_right_comm _ 1 k, hstart, ← hresume stack k, ← hpass, Nat.add_assoc (n + 1)]

theorem skipLoop_of_objectFrom (hread : Passes read) {ms : List (String × Json)} {rest : List UInt8}
    (hlength : rest.length < s.length) (hstep : ∀ stack, skipStep stack s = enter .object stack rest)
    (h : objectFrom read ('\x7b'.toUInt8 :: rest) = .ok (ms, s')) :
    ∃ n, n + s'.length < s.length ∧ ∀ stack k, skipLoop stack (n + 1 + k) s = resume stack k s' := by
  obtain ⟨⟨_, s₁⟩, hmembers, h⟩ := bind_eq_ok_iff.mp h
  obtain ⟨_, hclose, h⟩ := bind_eq_ok_iff.mp h
  cases h
  obtain ⟨⟨more, s₂⟩, hmore, hmembers⟩ := bind_eq_ok_iff.mp hmembers
  obtain ⟨hs, hmore⟩ := anotherMember_first_cases hmore
  rw [List.drop_succ_cons, List.drop_zero] at hs
  have hle := length_skipBlanks rest
  rcases hmore with ⟨rfl, rest', rfl⟩ | ⟨rfl, rest', rfl⟩
  · rw [hs, List.length_cons] at hle
    cases hmembers
    cases hclose
    refine ⟨0, by omega, fun stack k => ?_⟩
    rw [Nat.add_comm, skipLoop, hstep, enter, hs]
    rfl
  · rw [hs, List.length_cons] at hle
    obtain ⟨⟨name, s₃⟩, hname, hmembers⟩ := bind_eq_ok_iff.mp hmembers
    obtain ⟨s₄, hcolon, hmembers⟩ := bind_eq_ok_iff.mp hmembers
    obtain ⟨⟨v, s₅⟩, hv, hmembers⟩ := bind_eq_ok_iff.mp hmembers
    obtain ⟨⟨ms', s₆⟩, hms, hmembers⟩ := bind_eq_ok_iff.mp hmembers
    cases hmembers
    obtain ⟨n, hn, hpass⟩ := hread hv
    obtain ⟨n', rest'', rfl, hn', hresume⟩ := resume_members hread hms
    cases hclose
    have hskip : skipString .plain rest' = .ok s₃ := skipString_of_string hname
    have hnext : Open.object.next ('"'.toUInt8 :: rest') = .ok s₄ := bind_eq_ok_iff.mpr ⟨s₃, hskip, hcolon⟩
    have hlengthName := length_skipString hskip
    have hlengthColon := length_colon hcolon
    refine ⟨n + 1 + n', by omega, fun stack k => ?_⟩
    have hne : '"'.toUInt8 ≠ Open.object.closer := by decide
    have hstart : skipLoop stack (n + 1 + n' + k + 1) s = skipLoop (.object :: stack) (n + 1 + n' + k) s₄ := by
      rw [skipLoop, hstep, enter, hs]
      simp only [if_neg hne, hnext]
      rfl
    rw [Nat.add_right_comm _ 1 k, hstart, ← hresume stack k, ← hpass, Nat.add_assoc (n + 1)]

theorem skipLoop_of_afterHead {inside : Option (Reader Json)} (hinside : ∀ read ∈ inside, Passes read)
    {found : Found} (hhead : head s = .ok (found, s₁)) {v : Json} (h : afterHead inside found s₁ = .ok (v, s')) :
    ∃ n, n + s'.length < s.length ∧ ∀ stack k, skipLoop stack (n + 1 + k) s = resume stack k s' := by
  cases passed_of_head hhead with
  | scalar hlist hobject hlength hstep =>
    have heq : s₁ = s' := by
      cases found with
      | sequence => exact absurd rfl hlist
      | map => exact absurd rfl hobject
      | null | bool b | number n | string t =>
        cases h
        rfl
    subst heq
    refine ⟨0, by omega, fun stack k => ?_⟩
    rw [Nat.add_comm, skipLoop, hstep]
    rfl
  | list hlength hstep =>
    cases inside with
    | none => cases h
    | some read =>
      obtain ⟨⟨vs, s₂⟩, hlist, heq⟩ := map_eq_ok_iff.mp h
      cases heq
      exact skipLoop_of_listFrom (hinside read rfl) hlength hstep hlist
  | object hlength hstep =>
    cases inside with
    | none => cases h
    | some read =>
      obtain ⟨⟨ms, s₂⟩, hobject, heq⟩ := map_eq_ok_iff.mp h
      cases heq
      exact skipLoop_of_objectFrom (hinside read rfl) hlength hstep hobject

end Containers

theorem passes_value (depth : Nat) : Passes (value depth) := by
  induction depth with
  | zero =>
    intro s v s' h
    obtain ⟨⟨found, s₁⟩, hhead, h⟩ := bind_eq_ok_iff.mp h
    exact skipLoop_of_afterHead (fun _ hread => by cases hread) hhead h
  | succ depth ih =>
    intro s v s' h
    obtain ⟨⟨found, s₁⟩, hhead, h⟩ := bind_eq_ok_iff.mp h
    refine skipLoop_of_afterHead (fun read hread => ?_) hhead h
    cases hread
    exact ih

theorem skip_of_value {depth : Nat} {v : Json} (h : value depth s = .ok (v, s')) : skip s = .ok s' := by
  obtain ⟨n, hn, hpass⟩ := passes_value depth h
  have hfuel : s.length + 1 = n + 1 + (s.length - n) := by omega
  rw [skip, hfuel, hpass]
  rfl

section Lengths

variable {stack stack' : List Open}

theorem length_next {o : Open} (h : o.next s = .ok s') : s'.length ≤ s.length := by
  cases o with
  | list =>
    cases h
    exact Nat.le_refl _
  | object =>
    have hle := length_skipBlanks s
    rw [Open.next] at h
    split at h
    · cases h
    rename_i b rest hs
    split at h
    · obtain ⟨s₁, hstring, hcolon⟩ := bind_eq_ok_iff.mp h
      have hname := length_skipString hstring
      have hvalue := length_colon hcolon
      rw [hs, List.length_cons] at hle
      omega
    · cases h

theorem length_leave (h : leave stack s = .ok (stack', s')) : s'.length ≤ s.length := by
  induction stack generalizing s with
  | nil =>
    cases h
    exact Nat.le_refl _
  | cons o stack ih =>
    have hle := length_skipBlanks s
    rw [leave] at h
    split at h
    · cases h
    rename_i b rest hs
    rw [hs, List.length_cons] at hle
    split at h
    · obtain ⟨s₁, hnext, heq⟩ := map_eq_ok_iff.mp h
      cases heq
      have hrest := length_next hnext
      omega
    split at h
    · have hrest := ih h
      omega
    · cases h

theorem length_enter {o : Open} (h : enter o stack s = .ok (stack', s')) : s'.length ≤ s.length := by
  have hle := length_skipBlanks s
  rw [enter] at h
  split at h
  · cases h
  rename_i b rest hs
  rw [hs] at hle
  split at h
  · have hrest := length_leave h
    rw [List.length_cons] at hle
    omega
  · obtain ⟨s₁, hnext, heq⟩ := map_eq_ok_iff.mp h
    cases heq
    exact Nat.le_trans (length_next hnext) hle

theorem length_skipStep (h : skipStep stack s = .ok (stack', s')) : s'.length ≤ s.length := by
  have hle := length_skipBlanks s
  have hleave : ∀ {r : Except Fault (List UInt8)}, (∀ s₁, r = .ok s₁ → s₁.length ≤ s.length) →
      r >>= leave stack = .ok (stack', s') → s'.length ≤ s.length := by
    intro r hr h
    obtain ⟨s₁, hs₁, hrest⟩ := bind_eq_ok_iff.mp h
    exact Nat.le_trans (length_leave hrest) (hr s₁ hs₁)
  rw [skipStep] at h
  split at h
  · cases h
  rename_i b rest hs
  rw [hs] at hle
  have hrest : rest.length ≤ s.length := Nat.le_of_succ_le hle
  split at h
  · exact Nat.le_trans (length_enter h) hrest
  split at h
  · exact Nat.le_trans (length_enter h) hrest
  iterate 3
    split at h
    · exact hleave (fun s₁ hs₁ => Nat.le_trans (length_word hs₁) hrest) h
  split at h
  · exact hleave (fun s₁ hs₁ => Nat.le_trans (Nat.le_of_lt (length_skipNumber hs₁)) hrest) h
  split at h
  · exact hleave (fun s₁ hs₁ => Nat.le_trans (Nat.le_of_lt (length_skipNumber hs₁)) hle) h
  split at h
  · exact hleave (fun s₁ hs₁ => Nat.le_trans (Nat.le_of_lt (length_skipString hs₁)) hrest) h
  · cases h

theorem length_skipLoop {fuel : Nat} (h : skipLoop stack fuel s = .ok s') : s'.length ≤ s.length := by
  induction fuel generalizing stack s with
  | zero => cases h
  | succ fuel ih =>
    obtain ⟨⟨stack₁, s₁⟩, hstep, h⟩ := bind_eq_ok_iff.mp h
    have hle := length_skipStep hstep
    simp only at h
    split at h
    · cases h
      exact hle
    · exact Nat.le_trans (ih h) hle

theorem length_skip (h : skip s = .ok s') : s'.length ≤ s.length :=
  length_skipLoop h

end Lengths

end GatedStore.Json.Reader
