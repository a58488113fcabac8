import Mathlib
import SpecScribe.Proofs.Model.Retry
import SpecScribe.Proofs.Number.Arithmetic

/-!
The rate of requests. Before each try the session waits until the last one is an interval back, as
far as the clock can tell. So calls are an interval apart, less what the clock rounds away, and a
minute holds at most one call more than the settings say. A call for several prompts counts as one,
so there is no such bound on prompts.
-/

namespace SpecScribe

open Number in
/-- The value of a number, if it is finite. -/
def Number.value? : Number → Option ℚ
  | .int n => some n
  | .float x => valueOf? x

/-- A time that does not run backwards. -/
def Number.Forward (n : Number) : Prop := ∃ v, n.value? = some v ∧ 0 ≤ v

open Number in
lemma Number.Forward.toFloat_nonneg {n : Number} (h : n.Forward) {v : ℚ}
    (hv : valueOf? n.toFloat = some v) : 0 ≤ v := by
  obtain ⟨w, hw, hw0⟩ := h
  cases n with
  | int n =>
    cases hw
    obtain ⟨v', hv', hround⟩ | ⟨hnone, -⟩ := rounded_ofInt (by exact_mod_cast hw0)
    · cases hv.symm.trans hv'
      exact hround.nonneg
    · cases hv.symm.trans hnone
  | float z =>
    cases hv.symm.trans hw
    exact hw0

namespace Model

open Settings Number

/-! ### Waiting -/

section Clock

variable {x y : Float} {v v' l : ℚ}

/-- A clock to which something is added was finite before, and shows no less than before. -/
lemma le_of_valueOf?_add (hx : ∀ v, valueOf? x = some v → 0 ≤ v)
    (hy : ∀ v, valueOf? y = some v → 0 ≤ v) (h : valueOf? (x + y) = some v') :
    ∃ v, valueOf? x = some v ∧ 0 ≤ v ∧ v ≤ v' := by
  cases hxv : valueOf? x with
  | none => cases h.symm.trans (valueOf?_add_eq_none (.inl hxv))
  | some v =>
    cases hyv : valueOf? y with
    | none => cases h.symm.trans (valueOf?_add_eq_none (.inr hyv))
    | some w =>
      have hv := hx v hxv
      have hw := hy w hyv
      refine ⟨v, rfl, hv, ?_⟩
      obtain ⟨u, hu, hround⟩ | ⟨hnone, -⟩ := rounded_add hxv hyv hv hw
      · cases h.symm.trans hu
        exact hround.le_of_le (representable_of_valueOf? hxv hv) (by linarith)
      · cases h.symm.trans hnone

/-- The clock after the wait that keeps to an interval, if `y` was the time of the last request. -/
def paused (interval x y : Float) : Float :=
  if x - y < interval then x + (interval - (x - y)) else x

/-- What a clock `x`, the time `y` of the last request and an interval show. -/
structure Shows (interval x y : Float) (c v l : ℚ) : Prop where
  now : valueOf? x = some v
  last : valueOf? y = some l
  interval : valueOf? interval = some c
  last_nonneg : 0 ≤ l
  last_le : l ≤ v
  interval_nonneg : 0 ≤ c
  interval_lt : c < 2 ^ (6 : ℤ)

namespace Shows

variable {interval : Float} {c : ℚ} (hs : Shows interval x y c v l)
include hs

lemma now_nonneg : 0 ≤ v := hs.last_nonneg.trans hs.last_le

/-- Either there is no wait, or it lasts for what is left of the interval. -/
lemma paused_cases (h : valueOf? (paused interval x y) = some v') :
    v' = v ∧ (2 ^ (1023 : ℤ) ≤ v ∨ ∃ w, RoundsTo (v - l) w ∧ c ≤ w) ∨
      ∃ w q, RoundsTo (v - l) w ∧ w < c ∧ RoundsTo (c - w) q ∧ RoundsTo (v + q) v' := by
  rw [paused] at h
  obtain ⟨w, hw, hround⟩ | ⟨hnone, hlarge⟩ :=
    rounded_sub hs.now hs.last hs.last_nonneg hs.last_le
  · have hlt := lt_iff hw hs.interval hround.nonneg hs.interval_nonneg
    split_ifs at h with hwait
    · rw [hlt] at hwait
      obtain ⟨q, hq, hroundq⟩ | ⟨-, hlarge⟩ := rounded_sub hs.interval hw hround.nonneg hwait.le
      · obtain ⟨u, hu, hroundu⟩ | ⟨hnone, -⟩ := rounded_add hs.now hq hs.now_nonneg hroundq.nonneg
        · cases h.symm.trans hu
          exact .inr ⟨w, q, hround, hwait, hroundq, hroundu⟩
        · cases h.symm.trans hnone
      · have hsmall : (2 : ℚ) ^ (6 : ℤ) ≤ 2 ^ (1023 : ℤ) := two_zpow_le (by norm_num)
        have hlt6 := (sub_le_self c hround.nonneg).trans_lt hs.interval_lt
        exact absurd (hlarge.trans_lt hlt6) hsmall.not_gt
    · cases h.symm.trans hs.now
      exact .inl ⟨rfl, .inr ⟨w, hround, by rwa [hlt, not_lt] at hwait⟩⟩
  -- a clock so large that the time since the last request is not finite
  · split_ifs at h
    · have hgap : valueOf? (interval - (x - y)) = none := valueOf?_sub_eq_none (.inr hnone)
      cases h.symm.trans (valueOf?_add_eq_none (.inr hgap))
    · cases h.symm.trans hs.now
      exact .inl ⟨rfl, .inl (hlarge.trans (sub_le_self v hs.last_nonneg))⟩

lemma le_paused (h : valueOf? (paused interval x y) = some v') : v ≤ v' := by
  obtain ⟨rfl, -⟩ | ⟨w, q, -, -, hq, hround⟩ := hs.paused_cases h
  · exact le_rfl
  · have hq0 := hq.nonneg
    exact hround.le_of_le (representable_of_valueOf? hs.now hs.now_nonneg) (by linarith)

/-- The wait makes up for the interval, but for three roundings: of the time since the last
request, of the wait, and of the clock after it. -/
lemma paused_gap (h : valueOf? (paused interval x y) = some v') {k : ℤ} (hk : -1021 ≤ k)
    (hk' : k ≤ 1023) (hv' : v' < 2 ^ k) :
    l + c - (2 ^ (k - 54) + 2 * 2 ^ (-48 : ℤ)) ≤ v' := by
  have hpos := two_zpow_pos (k - 54)
  have hpos' := two_zpow_pos (-48)
  have hlt6 := hs.interval_lt
  have hsince : ∀ {w}, RoundsTo (v - l) w → v - l < 2 ^ (6 : ℤ) →
      |w - (v - l)| ≤ 2 ^ (-48 : ℤ) := by
    intro w hw hlt
    simpa using hw.near (sub_nonneg.mpr hs.last_le) hlt (by norm_num)
  obtain ⟨rfl, hlarge | ⟨w, hw, hcw⟩⟩ | ⟨w, q, hw, hwc, hq, hround⟩ := hs.paused_cases h
  · exact absurd (hlarge.trans_lt hv') (two_zpow_le hk').not_gt
  · rcases lt_or_ge (v' - l) (2 ^ (6 : ℤ)) with hlt | hge
    · linarith [(abs_le.mp (hsince hw hlt)).2]
    · linarith
  · have herrw := (abs_le.mp (hsince hw (hw.lt_of_lt (by norm_num) (hwc.trans hlt6)))).2
    have hcw6 : c - w < 2 ^ (6 : ℤ) := by linarith [hw.nonneg]
    have herrq : |q - (c - w)| ≤ 2 ^ (-48 : ℤ) := by
      simpa using hq.near (sub_nonneg.mpr hwc.le) hcw6 (by norm_num)
    have hsum : v + q < 2 ^ k := hround.lt_of_lt (by linarith) hv'
    have herr := hround.near (add_nonneg hs.now_nonneg hq.nonneg) hsum hk
    linarith [(abs_le.mp herrq).1, (abs_le.mp herr).1]

end Shows

lemma paused_eq_none {interval : Float} (h : valueOf? x = none) :
    valueOf? (paused interval x y) = none := by
  rw [paused]
  split_ifs
  · exact valueOf?_add_eq_none (.inl h)
  · exact h

end Clock

lemma valueOf?_sixty : valueOf? 60.0 = some 60 := by decide +kernel

/-- A minute by a number of requests, rounded. -/
lemma interval_near {n : ℤ} (h1 : 1 ≤ n) (h : n < 2 ^ 53) :
    ∃ c, valueOf? (60.0 / ofInt n) = some c ∧ 0 ≤ c ∧ c < 2 ^ (6 : ℤ) ∧
      |c - 60 / n| ≤ 2 ^ (-48 : ℤ) := by
  have h1' : (1 : ℚ) ≤ n := by exact_mod_cast h1
  have h53 : (n : ℚ) < 2 ^ 53 := by exact_mod_cast h
  have hle : 60 / (n : ℚ) ≤ 60 := div_le_self (by norm_num) h1'
  have hlow : (2 : ℚ) ^ (-1020 : ℤ) ≤ 60 / n := by
    have hsmall : (2 : ℚ) ^ (-1020 : ℤ) ≤ 2 ^ (-53 : ℤ) := two_zpow_le (by norm_num)
    refine hsmall.trans ?_
    rw [le_div_iff₀ (by linarith), zpow_neg, inv_mul_le_iff₀ (two_zpow_pos _)]
    norm_num at h53 ⊢
    linarith
  have hlt : 60 / (n : ℚ) < 2 ^ (6 : ℤ) := by norm_num at hle ⊢; linarith
  obtain ⟨c, hc, hround⟩ | ⟨-, hlarge⟩ :=
    rounded_div valueOf?_sixty (valueOf?_ofInt (by omega) h) (by norm_num) (by linarith) hlow
  · have hnear : |c - 60 / n| ≤ 2 ^ (-48 : ℤ) := by
      simpa using hround.near (by positivity) hlt (by norm_num)
    refine ⟨c, hc, hround.nonneg, ?_, hnear⟩
    have herr := (abs_le.mp hnear).2
    norm_num at herr ⊢
    linarith
  · exact absurd (hlarge.trans_lt hlt) (two_zpow_le (by norm_num)).not_gt

/-! ### Calls that are apart -/

section Spacing

variable {gap l v t : ℚ} {sent : List Sent}

/-- One call was made at least `gap` seconds before another. -/
def Apart (gap : ℚ) (a b : Sent) : Prop :=
  ∃ x y, a.time.value? = some x ∧ b.time.value? = some y ∧ x + gap ≤ y

/-- Calls that were made up to the time `l`, and are `gap` seconds apart. -/
structure Spaced (gap l : ℚ) (sent : List Sent) : Prop where
  before : ∀ c ∈ sent, ∃ t ≤ l, c.time.value? = some t
  apart : sent.Pairwise (Apart gap)

lemma Spaced.snoc {c : Sent} (h : Spaced gap l sent) (hle : l ≤ v) (hgap : l + gap ≤ v)
    (hc : c.time.value? = some v) : Spaced gap v (sent ++ [c]) where
  before := by
    intro a ha
    rcases List.mem_append.mp ha with ha | ha
    · obtain ⟨t, ht, hat⟩ := h.before a ha
      exact ⟨t, ht.trans hle, hat⟩
    · cases List.mem_singleton.mp ha
      exact ⟨v, le_rfl, hc⟩
  apart := by
    refine List.pairwise_append.mpr ⟨h.apart, List.pairwise_singleton .., fun a ha b hb => ?_⟩
    cases List.mem_singleton.mp hb
    obtain ⟨t, ht, hat⟩ := h.before a ha
    exact ⟨t, v, hat, hc, by linarith⟩

/-- Whether a call was made in the minute that begins at `t`. -/
def Sent.within (t : ℚ) (c : Sent) : Bool :=
  c.time.value?.any fun v => decide (t ≤ v) && decide (v < t + 60)

lemma within_iff {c : Sent} :
    c.within t ↔ ∃ v, c.time.value? = some v ∧ t ≤ v ∧ v < t + 60 := by
  simp [Sent.within, Option.any_eq_true]

/-- By induction on the calls: each adds a gap. -/
lemma exists_later {a : Sent} {x : ℚ} (ha : a.time.value? = some x)
    (h : (a :: sent).Pairwise (Apart gap)) :
    ∃ b ∈ a :: sent, ∃ y, b.time.value? = some y ∧ x + sent.length * gap ≤ y := by
  induction sent generalizing a x with
  | nil => exact ⟨a, by simp, x, ha, by simp⟩
  | cons c sent ih =>
    rw [List.pairwise_cons] at h
    obtain ⟨x', y, hx', hy, hle⟩ := h.1 c (by simp)
    cases ha.symm.trans hx'
    obtain ⟨b, hb, z, hz, hlez⟩ := ih hy h.2
    refine ⟨b, List.mem_cons_of_mem a hb, z, hz, ?_⟩
    rw [List.length_cons]
    push_cast
    linarith

/-- A minute has room for so many calls only. -/
lemma length_within_lt (h : sent.Pairwise (Apart gap)) (t : ℚ) :
    (((sent.filter (Sent.within t)).length - 1 : ℕ) : ℚ) * gap < 60 := by
  have hmem : ∀ c ∈ sent.filter (Sent.within t), c.within t := fun c hc => (List.mem_filter.mp hc).2
  have hpair := h.filter (Sent.within t)
  cases hlist : sent.filter (Sent.within t) with
  | nil => simp
  | cons a rest =>
    rw [hlist] at hmem hpair
    obtain ⟨x, hx, hxt, -⟩ := within_iff.mp (hmem a (by simp))
    obtain ⟨b, hb, y, hy, hle⟩ := exists_later hx hpair
    obtain ⟨y', hy', -, hlt⟩ := within_iff.mp (hmem b hb)
    cases hy.symm.trans hy'
    rw [List.length_cons, Nat.add_sub_cancel]
    linarith

end Spacing

/-! ### The clock of a session -/

/-- What is kept along every run. The clock is not before the last request, and as long as it has
not passed the bound, calls are apart. -/
structure Paced (bound gap : ℚ) (s : Session) : Prop where
  now : ∃ x, s.now = .float x
  last : ∃ y, s.last = .float y
  script : ∀ e ∈ s.script, e.advance.Forward
  clock : ∀ v, s.now.value? = some v →
    ∃ l, s.last.value? = some l ∧ 0 ≤ l ∧ l ≤ v ∧ (v < bound → Spaced gap l s.sent)

section Steps

variable {bound gap : ℚ} {s : Session} {p : Performance}

/-- Only the clock, the time of the last request, the calls and the events to come matter. -/
lemma Paced.congr {s' : Session} (h : Paced bound gap s) (hnow : s'.now = s.now)
    (hlast : s'.last = s.last) (hsent : s'.sent = s.sent) (hscript : s'.script ⊆ s.script) :
    Paced bound gap s' where
  now := hnow ▸ h.now
  last := hlast ▸ h.last
  script := fun e he => h.script e (hscript he)
  clock := by
    rw [hnow, hlast, hsent]
    exact h.clock

lemma Paced.wait {y : Number} (h : Paced bound gap s) (hy : y.Forward) :
    Paced bound gap (s.wait y) := by
  obtain ⟨x, hx⟩ := h.now
  have hnow : (s.wait y).now = .float (x + y.toFloat) := by
    rw [Session.wait, hx]
    cases y <;> rfl
  have hclock := h.clock
  rw [hx] at hclock
  refine ⟨⟨_, hnow⟩, h.last, h.script, fun v' hv' => ?_⟩
  rw [hnow] at hv'
  have hnonneg : ∀ v, valueOf? x = some v → 0 ≤ v := by
    intro v hv
    obtain ⟨l, -, hl, hle, -⟩ := hclock v hv
    exact hl.trans hle
  obtain ⟨v, hv, -, hle⟩ := le_of_valueOf?_add hnonneg (fun v => hy.toFloat_nonneg) hv'
  obtain ⟨l, hl, hl0, hlv, hspaced⟩ := hclock v hv
  exact ⟨l, hl, hl0, hlv.trans hle, fun hbound => hspaced (hle.trans_lt hbound)⟩

lemma Paced.sleep {y : Number} (h : Paced bound gap s) (hy : y.Forward) :
    Paced bound gap (s.sleep y) :=
  (h.wait hy).congr rfl rfl rfl (List.Subset.refl _)

lemma limitRate_now {x y : Float} (hx : s.now = .float x) (hy : s.last = .float y) :
    (s.limitRate p).now = .float (paused (minInterval p) x y) := by
  by_cases hlt : x - y < minInterval p
  · simp [Session.limitRate, paused, hx, hy, Number.sub, Number.lt, Number.toFloat, hlt,
      Session.sleep, Session.wait, Number.add]
  · simp [Session.limitRate, paused, hx, hy, Number.sub, Number.lt, Number.toFloat, hlt]

/-- The least time between two calls, by a clock that has not passed `2 ^ k` seconds. -/
def leastGap (p : Performance) (k : ℕ) : ℚ := 60 / p.requestsPerMinute - 2 ^ k / 2 ^ 53

/-- The gap is what the interval and the wait leave after all roundings. -/
lemma leastGap_le {k : ℕ} (hk : 8 ≤ k) {l c v : ℚ}
    (hc : |c - 60 / p.requestsPerMinute| ≤ 2 ^ (-48 : ℤ))
    (h : l + c - (2 ^ ((k : ℤ) - 54) + 2 * 2 ^ (-48 : ℤ)) ≤ v) : l + leastGap p k ≤ v := by
  have hclock : (2 : ℚ) ^ k / 2 ^ 53 = 2 * 2 ^ ((k : ℤ) - 54) := by
    rw [zpow_sub₀ two_ne_zero, zpow_natCast]
    norm_num
    ring
  have hsmall : 4 * (2 : ℚ) ^ (-48 : ℤ) ≤ 2 ^ ((k : ℤ) - 54) := by
    calc 4 * (2 : ℚ) ^ (-48 : ℤ) = 2 ^ (-46 : ℤ) := by norm_num
      _ ≤ 2 ^ ((k : ℤ) - 54) := two_zpow_le (by omega)
  have hpos := two_zpow_pos (-48)
  have hlow := (abs_le.mp hc).1
  rw [leastGap, hclock]
  generalize (2 : ℚ) ^ (-48 : ℤ) = small at *
  linarith

/-- Settings whose rate and waits a clock below `2 ^ k` seconds can tell. -/
structure Moderate (p : Performance) (k : ℕ) : Prop where
  bits : 8 ≤ k ∧ k ≤ 1023
  rate : 1 ≤ p.requestsPerMinute ∧ p.requestsPerMinute < 2 ^ 53
  delay : 0 ≤ p.retryDelay

/-- A call that keeps to the rate is noted. -/
lemma Paced.note {k : ℕ} (hp : Moderate p k) (h : Paced (2 ^ k) (leastGap p k) s) (call : Call) :
    Paced (2 ^ k) (leastGap p k)
      { s.limitRate p with sent := s.sent ++ [⟨call, (s.limitRate p).now⟩] } := by
  obtain ⟨x, hx⟩ := h.now
  obtain ⟨y, hy⟩ := h.last
  obtain ⟨⟨hk, hk'⟩, ⟨h1, h53⟩, -⟩ := hp
  obtain ⟨c, hc, hc0, hc6, hnear⟩ := interval_near h1 h53
  have hnow := limitRate_now (p := p) hx hy
  have hclock := h.clock
  rw [hx, hy] at hclock
  refine ⟨⟨_, hnow⟩, ⟨_, hnow⟩, fun e he => h.script e (by simpa using he), fun v' hv' => ?_⟩
  have hpaused : valueOf? (paused (minInterval p) x y) = some v' := by
    change (s.limitRate p).now.value? = some v' at hv'
    rw [hnow] at hv'
    exact hv'
  cases hxv : valueOf? x with
  | none => cases hpaused.symm.trans (paused_eq_none hxv)
  | some v =>
    obtain ⟨l, hl, hl0, hlv, hspaced⟩ := hclock v hxv
    have hs : Shows (minInterval p) x y c v l := ⟨hxv, hl, hc, hl0, hlv, hc0, hc6⟩
    have hle := hs.le_paused hpaused
    refine ⟨v', hv', hl0.trans (hlv.trans hle), le_rfl, fun hbound => ?_⟩
    have hgap := leastGap_le hk hnear
      (hs.paused_gap hpaused (by omega) (by omega) (by exact_mod_cast hbound))
    exact (hspaced (hle.trans_lt hbound)).snoc (hlv.trans hle) hgap hv'

end Steps

/-! ### Runs -/

/-- The session after a request is that after its tries; a request for nothing is not made. -/
lemma request_session (p : Performance) (call : Call) (s : Session) :
    ((request p call).run s).2 = s ∨
      ∃ (α : Type) (operation : Ask α) (read : Option Outcome → Except Fault α),
        MakesCall call operation read ∧
          ((request p call).run s).2 = ((withRetry p operation).run s).2 := by
  rcases call with prompt | prompts
  · obtain ⟨operation, hcall, heq⟩ := generate_eq p prompt
    refine .inr ⟨_, operation, singleAnswer, hcall, ?_⟩
    rw [request, Ask.run_bind, ← heq]
    rcases (generate p prompt).run s with ⟨_ | _, _⟩ <;> rfl
  · by_cases h : prompts = []
    · subst h
      exact .inl rfl
    · obtain ⟨operation, hcall, heq⟩ := generateBatch_eq p h
      exact .inr ⟨_, operation, severalAnswers, hcall, by rw [request, heq]⟩

lemma request_calls (p : Performance) (call : Call) (s : Session) :
    ∀ c ∈ ((request p call).run s).2.sent, c.call = call ∨ c.call ∈ s.sent.map Sent.call := by
  intro c hc
  obtain heq | ⟨α, operation, read, hcall, heq⟩ := request_session p call s <;> rw [heq] at hc
  · exact .inr (List.mem_map_of_mem hc)
  · obtain ⟨k, -, -, -, hends⟩ := withRetry_endsAt (p := p) hcall s
    have hmem : c.call ∈ s.sent.map Sent.call ++ List.replicate (k + 1) call :=
      hends.calls ▸ List.mem_map_of_mem hc
    rcases List.mem_append.mp hmem with h | h
    · exact .inr h
    · exact .inl (List.eq_of_mem_replicate h)

/-- What a session is used for: requests, and idle times between them. -/
inductive Move where
  | request (call : Call)
  | idle (seconds : Number)

/-- The session after a move. A failed request does not keep the next from being made. -/
def Move.apply (p : Performance) (s : Session) : Move → Session
  | .request call => ((Model.request p call).run s).2
  | .idle seconds => s.wait seconds

/-- The session after a run of moves. -/
def conduct (p : Performance) (s : Session) (moves : List Move) : Session :=
  moves.foldl (Move.apply p) s

section Runs

variable {p : Performance} {s : Session} {k : ℕ}

lemma Paced.afterTry (hp : Moderate p k) (h : Paced (2 ^ k) (leastGap p k) s) (call : Call) :
    Paced (2 ^ k) (leastGap p k) (afterTry p call s) := by
  have hnote := h.note hp call
  rw [Model.afterTry, Session.take, Session.limitRate_sent, Session.limitRate_script]
  rcases hscript : s.script with _ | ⟨e, rest⟩
  · exact hnote.congr rfl rfl rfl (List.nil_subset _)
  · have hforward : e.advance.Forward := h.script e (by simp [hscript])
    refine Paced.wait ?_ hforward
    exact hnote.congr rfl rfl rfl (by simp [hscript])

lemma forward_int {n : ℤ} (h : 0 ≤ n) : (Number.int n).Forward := ⟨n, rfl, by exact_mod_cast h⟩

lemma Paced.beforeTry (hp : Moderate p k) (h : Paced (2 ^ k) (leastGap p k) s) (call : Call)
    {waits : ℕ → ℤ} (hwaits : ∀ i, 0 ≤ waits i) (i : ℕ) :
    Paced (2 ^ k) (leastGap p k) (beforeTry p call waits s i) := by
  induction i with
  | zero => exact h
  | succ i ih => exact (ih.afterTry hp call).sleep (forward_int (hwaits i))

lemma backoff_nonneg {α : Type} {delay : ℤ} (h : 0 ≤ delay) (i : ℕ) (r : Except Fault α) :
    0 ≤ backoff delay i r := by
  rcases r with f | a <;> simp only [backoff]
  · split_ifs <;> positivity
  · positivity

lemma Paced.request (hp : Moderate p k) (h : Paced (2 ^ k) (leastGap p k) s) (call : Call) :
    Paced (2 ^ k) (leastGap p k) ((request p call).run s).2 := by
  obtain heq | ⟨α, operation, read, hcall, heq⟩ := request_session p call s <;> rw [heq]
  · exact h
  · obtain ⟨j, -, -, -, hrun⟩ := retrying_run (p := p) hcall p.maxRetries.toNat 0 s
    rw [withRetry, hrun]
    have hbefore := h.beforeTry hp call
      (fun i => backoff_nonneg hp.delay (0 + i) (outcomeAt read s.script i)) j
    exact (hbefore.afterTry hp call).congr rfl rfl rfl (List.Subset.refl _)

lemma Paced.conduct (hp : Moderate p k) (h : Paced (2 ^ k) (leastGap p k) s) {moves : List Move}
    (hidle : ∀ seconds, .idle seconds ∈ moves → seconds.Forward) :
    Paced (2 ^ k) (leastGap p k) (conduct p s moves) := by
  induction moves generalizing s with
  | nil => exact h
  | cons move moves ih =>
    have hrest : ∀ seconds, .idle seconds ∈ moves → seconds.Forward :=
      fun seconds hmem => hidle seconds (List.mem_cons_of_mem move hmem)
    rcases move with call | seconds
    · exact ih (h.request hp call) hrest
    · exact ih (h.wait (hidle seconds (by simp))) hrest

lemma conduct_calls (moves : List Move) :
    ∀ c ∈ (conduct p s moves).sent, .request c.call ∈ moves ∨ c.call ∈ s.sent.map Sent.call := by
  induction moves generalizing s with
  | nil => exact fun c hc => .inr (List.mem_map_of_mem hc)
  | cons move moves ih =>
    intro c hc
    rcases ih c hc with hmem | hmem
    · exact .inl (List.mem_cons_of_mem move hmem)
    rcases move with call | seconds
    · obtain ⟨c', hc', heq⟩ := List.mem_map.mp hmem
      rcases request_calls p call s c' hc' with h | h
      · exact .inl (by simp [← heq, h])
      · exact .inr (heq ▸ h)
    · exact .inr hmem

lemma paced_start {bound gap : ℚ} {script : List Event} {x : Float}
    (hscript : ∀ e ∈ script, e.advance.Forward) (hx : (Number.float x).Forward) :
    Paced bound gap { script := script, now := .float x } where
  now := ⟨x, rfl⟩
  last := ⟨0.0, rfl⟩
  script := hscript
  clock := by
    intro v hv
    obtain ⟨v', hv', hv0⟩ := hx
    cases hv.symm.trans hv'
    have hzero : valueOf? 0.0 = some 0 := by decide +kernel
    exact ⟨0, hzero, le_rfl, hv0, fun _ => ⟨by simp, .nil⟩⟩

/-- A rate with a gap is one that the clock can tell. -/
lemma moderate_of_leastGap_pos (hk : 8 ≤ k) (hrate : 1 ≤ p.requestsPerMinute)
    (hdelay : 0 ≤ p.retryDelay) (h : 0 < leastGap p k) : Moderate p k := by
  have hrate' : (1 : ℚ) ≤ p.requestsPerMinute := by exact_mod_cast hrate
  rw [leastGap, sub_pos, div_lt_div_iff₀ (by positivity) (by linarith)] at h
  have hpow : (2 : ℚ) ^ 8 ≤ 2 ^ k := pow_le_pow_right₀ one_le_two hk
  refine ⟨⟨hk, ?_⟩, ⟨hrate, ?_⟩, hdelay⟩
  · by_contra hlarge
    have hpow' : (2 : ℚ) ^ 60 ≤ 2 ^ k := pow_le_pow_right₀ one_le_two (by omega)
    nlinarith
  · have hlt : (p.requestsPerMinute : ℚ) < 2 ^ 53 := by nlinarith
    exact_mod_cast hlt

/-- If the roundings of a whole minute stay below the interval, there is room for one call more. -/
lemma length_le_of_mul_leastGap_lt {n : ℕ} (hrate : 1 ≤ p.requestsPerMinute)
    (hclose : p.requestsPerMinute * (p.requestsPerMinute + 1) * 2 ^ k ≤ 60 * 2 ^ 53)
    (h : ((n - 1 : ℕ) : ℚ) * leastGap p k < 60) : n ≤ p.requestsPerMinute + 1 := by
  by_contra hlarge
  have hrate' : (1 : ℚ) ≤ p.requestsPerMinute := by exact_mod_cast hrate
  have hn : (p.requestsPerMinute + 1 : ℚ) ≤ (n - 1 : ℕ) := by
    exact_mod_cast (by omega : p.requestsPerMinute + 1 ≤ ((n - 1 : ℕ) : ℤ))
  have hclose' : (p.requestsPerMinute : ℚ) * (p.requestsPerMinute + 1) * 2 ^ k ≤ 60 * 2 ^ 53 := by
    exact_mod_cast hclose
  rw [leastGap] at h
  generalize (p.requestsPerMinute : ℚ) = r at *
  have hlost : (r + 1) * (2 ^ k / 2 ^ 53) ≤ 60 / r := by
    rw [le_div_iff₀ (by linarith), mul_div_assoc', div_mul_eq_mul_div, div_le_iff₀ (by positivity)]
    linarith
  have hpos : (0 : ℚ) < 2 ^ k / 2 ^ 53 := by positivity
  have hgap : 0 ≤ 60 / r - 2 ^ k / 2 ^ 53 := by nlinarith
  have hminute : (r + 1) * (60 / r) = 60 + 60 / r := by
    field_simp
  have hroom := mul_le_mul_of_nonneg_right hn hgap
  linarith

/-- The number of prompts that calls hand over. -/
def prompts (sent : List Sent) : ℕ := (sent.map fun c => c.call.size).sum

lemma prompts_le {sent : List Sent} {b : ℕ} (h : ∀ c ∈ sent, c.call.size ≤ b) :
    prompts sent ≤ b * sent.length := by
  have hsum := List.sum_le_card_nsmul (sent.map fun c => c.call.size) b (by simpa using h)
  rwa [List.length_map, smul_eq_mul, mul_comm] at hsum

/-- **A minute has room for as many calls as the least gap between them lets in.** That is one more
than the settings say at most, if the rate is one that the clock can tell; and calls hand over as
many prompts each as their requests have. -/
theorem calls_in_minute_bounded {script : List Event} {x : Float} {moves : List Move}
    (hk : 8 ≤ k) (hrate : 1 ≤ p.requestsPerMinute) (hdelay : 0 ≤ p.retryDelay)
    (hscript : ∀ e ∈ script, e.advance.Forward) (hx : (Number.float x).Forward)
    (hidle : ∀ seconds, .idle seconds ∈ moves → seconds.Forward)
    (hclock : ∃ v < (2 : ℚ) ^ k,
      (conduct p { script := script, now := .float x } moves).now.value? = some v) (t : ℚ) :
    let sent := (conduct p { script := script, now := .float x } moves).sent.filter (Sent.within t)
    ((sent.length - 1 : ℕ) : ℚ) * leastGap p k < 60 ∧
      (p.requestsPerMinute * (p.requestsPerMinute + 1) * 2 ^ k ≤ 60 * 2 ^ 53 →
        sent.length ≤ p.requestsPerMinute + 1) ∧
      ∀ b, (∀ call, .request call ∈ moves → call.size ≤ b) → prompts sent ≤ b * sent.length := by
  intro sent
  have hlength : ((sent.length - 1 : ℕ) : ℚ) * leastGap p k < 60 := by
    rcases le_or_gt (leastGap p k) 0 with hgap | hgap
    · exact (mul_nonpos_of_nonneg_of_nonpos (Nat.cast_nonneg _) hgap).trans_lt (by norm_num)
    · have hp := moderate_of_leastGap_pos hk hrate hdelay hgap
      obtain ⟨v, hv, hnow⟩ := hclock
      obtain ⟨l, -, -, -, hspaced⟩ := ((paced_start hscript hx).conduct hp hidle).clock v hnow
      exact length_within_lt (hspaced hv).apart t
  refine ⟨hlength, fun hclose => length_le_of_mul_leastGap_lt hrate hclose hlength,
    fun b hb => prompts_le fun c hc => ?_⟩
  rcases conduct_calls moves c (List.mem_filter.mp hc).1 with h | h
  · exact hb c.call h
  · simp at h

/-- An answer that takes no time. -/
def promptly (text : String) : Event := { outcome := .single (.ok (.message (.text text))) }

/-- Fourteen prompts, one after another, half a second after the session began. -/
theorem calls_in_minute_bounded_thirteen :
    let p : Performance := { requestsPerMinute := 13 }
    let moves := .idle (.float 0.5) :: List.replicate 14 (.request (.invoke "a"))
    let session := conduct p
      { script := List.replicate 14 (promptly "x"), now := .float 1000.0 } moves
    (session.now.value?.any fun v => decide (v < 2 ^ 11)) ∧
      ∀ t, (session.sent.filter (Sent.within t)).length ≤ p.requestsPerMinute + 1 ∧
        prompts (session.sent.filter (Sent.within t)) ≤
          1 * (session.sent.filter (Sent.within t)).length := by
  intro p moves session
  have hclock : (session.now.value?.any fun v => decide (v < 2 ^ 11)) = true := by decide +kernel
  refine ⟨hclock, fun t => ?_⟩
  obtain ⟨v, hv, hlt⟩ := Option.any_eq_true _ _ |>.mp hclock
  have hidle : ∀ seconds, .idle seconds ∈ moves → seconds.Forward := by
    intro seconds hmem
    obtain rfl : seconds = .float 0.5 := by simpa [moves] using hmem
    exact ⟨1 / 2, by decide +kernel, by norm_num⟩
  have hscript : ∀ e ∈ List.replicate 14 (promptly "x"), e.advance.Forward := by
    intro e he
    rw [List.eq_of_mem_replicate he]
    exact forward_int le_rfl
  have hsizes : ∀ call, .request call ∈ moves → call.size ≤ 1 := by
    intro call hmem
    obtain rfl : call = .invoke "a" := by simpa [moves] using hmem
    exact le_rfl
  obtain ⟨-, hcalls, hprompts⟩ := calls_in_minute_bounded (k := 11) (p := p) (by norm_num)
    (by decide) (by decide) hscript ⟨1000, by decide +kernel, by norm_num⟩ hidle
    ⟨v, of_decide_eq_true hlt, hv⟩ t
  exact ⟨hcalls (by norm_num [p]), hprompts 1 hsizes⟩

/-- Two prompts in a batch are sent at once, at a rate of one in a minute; and the clock rounds so
much away that fourteen prompts pass in a minute, at a rate of thirteen. -/
theorem prompts_in_minute_exceed_rate :
    prompts ((conduct { requestsPerMinute := 1 }
      { script :=
          [{ outcome := .several [.ok (.message (.text "x")), .ok (.message (.text "y"))] }] }
      [.request (.batch ["a", "b"])]).sent.filter (Sent.within 1000)) = 2 ∧
    prompts ((conduct { requestsPerMinute := 13 } { script := List.replicate 14 (promptly "x") }
      (List.replicate 14 (.request (.invoke "a")))).sent.filter (Sent.within 1000)) = 14 := by
  decide +kernel

end Runs

end Model

end SpecScribe
