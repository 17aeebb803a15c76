import PilotBeacon.Net.Addr
import Mathlib.Data.List.TakeWhile

/-!
# Printed Addresses Determine Endpoints

The beacon keeps some tables under `UDPAddr.String()` and compares other addresses by
`IP.Equal` and port. The two agree: addresses with one printed form are one endpoint
(`UDPAddr.string_injective`).

The argument goes through the separated fields of each form:

- dotted IPv4: four decimal numerals
- IPv6: hexadecimal groups, with `::` shown as an empty field (`fields6`); the number of
  zero groups it stands for follows from there being eight groups in all
- host and port: the port is what follows the last colon, the zone what follows the
  first percent sign
-/

namespace PilotBeacon.Net

open PilotBeacon.Lib

namespace IP

/-! ## Numerals -/

theorem decimal_injective : Function.Injective decimal :=
  Text.toDigits_injective (by decide) (by decide)

theorem hex_injective : Function.Injective hex :=
  Text.toDigits_injective (by decide) (by decide)

theorem hex_ne_nil (n : Nat) : hex n ≠ [] := Nat.toDigits_ne_nil

theorem notMem_decimal {c : Char} (hc : ∀ d < 16, c ≠ Nat.digitChar d) (n : Nat) :
    c ∉ decimal n :=
  Text.notMem_toDigits (by decide) (by decide) hc

theorem notMem_hex {c : Char} (hc : ∀ d < 16, c ≠ Nat.digitChar d) (n : Nat) : c ∉ hex n :=
  Text.notMem_toDigits (by decide) (by decide) hc

/-! ## IPv4 -/

theorem string4_injective {a b : Bytes} (ha : a ≠ []) (hb : b ≠ [])
    (h : string4 a = string4 b) : a = b := by
  have hdot : ∀ d < 16, '.' ≠ Nat.digitChar d := by decide
  have hnone : ∀ x : Bytes, ∀ l ∈ x.map (fun y => decimal y.toNat), '.' ∉ l := by
    intro x l hl
    obtain ⟨y, _, rfl⟩ := List.mem_map.mp hl
    exact notMem_decimal hdot _
  have hfields := Text.intercalate_injective (hnone a) (hnone b) (by simpa using ha)
    (by simpa using hb) h
  apply List.map_injective_iff.mpr _ hfields
  intro x y hxy
  exact UInt8.toNat_inj.mp (decimal_injective hxy)

/-! ## IPv6 -/

/-- What the run scan returns is a run of zero groups. -/
theorem zeroRun_sound {g : List Nat} {s e : Nat} (h : zeroRun g = some (s, e)) :
    g = g.take s ++ List.replicate (e - s) 0 ++ g.drop e := by
  have hscan : ∀ i, g = g.take i ++ List.replicate (i + zeroLen (g.drop i) - i) 0 ++
      g.drop (i + zeroLen (g.drop i)) := by
    intro i
    have hzero : (g.drop i).takeWhile (· == 0) = List.replicate (zeroLen (g.drop i)) 0 := by
      rw [List.eq_replicate_iff]
      refine ⟨rfl, fun x hx => ?_⟩
      simpa using List.mem_takeWhile_imp hx
    have hrest : (g.drop i).dropWhile (· == 0) = g.drop (i + zeroLen (g.drop i)) := by
      rw [← List.drop_drop, zeroLen]
      conv_rhs => rw [← List.takeWhile_append_dropWhile (p := (· == 0)) (l := g.drop i)]
      rw [List.drop_left' (by simp)]
    calc g = g.take i ++ g.drop i := (List.take_append_drop i g).symm
      _ = g.take i ++ ((g.drop i).takeWhile (· == 0) ++ (g.drop i).dropWhile (· == 0)) := by
        rw [List.takeWhile_append_dropWhile]
      _ = _ := by rw [hzero, hrest, Nat.add_sub_cancel_left, List.append_assoc]
  -- the fold keeps: whatever is recorded so far is a run of zeros
  have hfold : ∀ (is : List Nat) (best : Option (Nat × Nat)),
      (∀ s e, best = some (s, e) → g = g.take s ++ List.replicate (e - s) 0 ++ g.drop e) →
      ∀ s e, is.foldl (fun best i =>
        if 2 ≤ zeroLen (g.drop i) ∧ (best.elim 0 fun r => r.2 - r.1) < zeroLen (g.drop i) then
          some (i, i + zeroLen (g.drop i))
        else best) best = some (s, e) →
        g = g.take s ++ List.replicate (e - s) 0 ++ g.drop e := by
    intro is
    induction is with
    | nil => exact fun best hbest => hbest
    | cons i is ih =>
      intro best hbest s e hfold
      rw [List.foldl_cons] at hfold
      apply ih _ _ s e hfold
      intro s' e' hnew
      split_ifs at hnew
      · cases hnew
        exact hscan i
      · exact hbest s' e' hnew
  exact hfold (List.range g.length) none (by simp) s e h

/-- One side of `::` as fields: an empty side still gives one, empty, field. -/
def side (g : List Nat) : List Text := if g = [] then [[]] else g.map hex

/-- The colon-separated fields of an IPv6 address. -/
def fields6 (g : List Nat) : List Text :=
  match zeroRun g with
  | none => g.map hex
  | some (s, e) => side (g.take s) ++ [] :: side (g.drop e)

theorem fields6_of_none {g : List Nat} (h : zeroRun g = none) : fields6 g = g.map hex := by
  rw [fields6, h]

theorem fields6_of_some {g : List Nat} {s e : Nat} (h : zeroRun g = some (s, e)) :
    fields6 g = side (g.take s) ++ [] :: side (g.drop e) := by
  rw [fields6, h]

theorem intercalate_side (g : List Nat) :
    [':'].intercalate (side g) = [':'].intercalate (g.map hex) := by
  unfold side
  split_ifs with h
  · subst h; rfl
  · rfl

theorem side_ne_nil (g : List Nat) : side g ≠ [] := by
  unfold side
  split_ifs with h
  · simp
  · simpa using h

theorem string6_eq_intercalate (g : List Nat) : string6 g = [':'].intercalate (fields6 g) := by
  unfold string6 fields6
  cases zeroRun g with
  | none => rfl
  | some r =>
    -- `::` is an empty field between two separators
    rw [Text.intercalate_append (side_ne_nil _) (by simp),
      List.intercalate_cons_of_ne_nil (side_ne_nil _), intercalate_side, intercalate_side]
    simp

theorem notMem_fields6 {c : Char} (hc : ∀ d < 16, c ≠ Nat.digitChar d) {g : List Nat} {l : Text}
    (hl : l ∈ fields6 g) : c ∉ l := by
  have hmap : ∀ {g : List Nat} {l : Text}, l ∈ g.map hex → c ∉ l := by
    intro g l hl
    obtain ⟨n, _, rfl⟩ := List.mem_map.mp hl
    exact notMem_hex hc n
  have hside : ∀ {g : List Nat} {l : Text}, l ∈ side g → c ∉ l := by
    intro g l hl
    unfold side at hl
    split_ifs at hl
    · rw [List.mem_singleton.mp hl]
      exact List.not_mem_nil
    · exact hmap hl
  unfold fields6 at hl
  split at hl
  · exact hmap hl
  · rcases List.mem_append.mp hl with hl | hl
    · exact hside hl
    · rcases List.mem_cons.mp hl with rfl | hl
      · exact List.not_mem_nil
      · exact hside hl

/-- The groups left of `::` are the fields before the first empty one. -/
theorem takeWhile_side_append (g : List Nat) (rest : List Text) :
    (side g ++ [] :: rest).takeWhile (· ≠ []) = g.map hex := by
  unfold side
  split_ifs with h
  · subst h; rfl
  · rw [List.takeWhile_append_of_pos]
    · simp
    · intro l hl
      obtain ⟨n, _, rfl⟩ := List.mem_map.mp hl
      simpa using hex_ne_nil n

theorem side_reverse (g : List Nat) : (side g).reverse = side g.reverse := by
  unfold side
  by_cases h : g = [] <;> simp [h, List.map_reverse]

/-- The groups of an IPv6 address can be read off its fields, as there are `n` of them. -/
theorem fields6_injective {g g' : List Nat} (hlen : g.length = g'.length)
    (h : fields6 g = fields6 g') : g = g' := by
  have hmapInj : Function.Injective (List.map hex) := List.map_injective_iff.mpr hex_injective
  have hno : ∀ l : List Nat, [] ∉ l.map hex := by
    intro l hmem
    obtain ⟨n, _, hn⟩ := List.mem_map.mp hmem
    exact hex_ne_nil n hn
  cases hr : zeroRun g with
  | none =>
    rw [fields6_of_none hr] at h
    cases hr' : zeroRun g' with
    | none =>
      rw [fields6_of_none hr'] at h
      exact hmapInj h
    | some r' =>
      rw [fields6_of_some (s := r'.1) (e := r'.2) hr'] at h
      -- only one of the two has an empty field
      exact absurd (by rw [h]; simp) (hno g)
  | some r =>
    obtain ⟨s, e⟩ := r
    rw [fields6_of_some hr] at h
    cases hr' : zeroRun g' with
    | none =>
      rw [fields6_of_none hr'] at h
      exact absurd (by rw [← h]; simp) (hno g')
    | some r' =>
      obtain ⟨s', e'⟩ := r'
      rw [fields6_of_some hr'] at h
      have hleft : g.take s = g'.take s' := by
        have := congrArg (List.takeWhile (· ≠ [])) h
        rw [takeWhile_side_append, takeWhile_side_append] at this
        exact hmapInj this
      have hright : g.drop e = g'.drop e' := by
        have := congrArg (fun l => l.reverse.takeWhile (· ≠ [])) h
        simp only [List.reverse_append, List.reverse_cons, side_reverse, List.append_assoc,
          List.singleton_append] at this
        rw [takeWhile_side_append, takeWhile_side_append] at this
        exact List.reverse_injective (hmapInj this)
      have hg := zeroRun_sound hr
      have hg' := zeroRun_sound hr'
      -- the run fills what the two sides leave of the common length
      have hrun : e - s = e' - s' := by
        have h₁ := congrArg List.length hg
        have h₂ := congrArg List.length hg'
        simp only [List.length_append, List.length_replicate] at h₁ h₂
        have hl := congrArg List.length hleft
        have hr := congrArg List.length hright
        omega
      rw [hg, hg', hleft, hright, hrun]

theorem groups_injective : ∀ {a b : Bytes}, a.length = b.length → a.length % 2 = 0 →
    groups a = groups b → a = b
  | [], [], _, _, _ => rfl
  | [_], _, _, h, _ => by simp at h
  | x :: y :: a, x' :: y' :: b, hlen, heven, h => by
    simp only [groups, List.cons.injEq] at h
    have hx := x.toNat_lt
    have hy := y.toNat_lt
    have hx' := x'.toNat_lt
    have hy' := y'.toNat_lt
    -- a group determines its two bytes
    have hhi : x = x' := UInt8.toNat_inj.mp (by omega)
    have hlo : y = y' := UInt8.toNat_inj.mp (by omega)
    have hrest : a = b := groups_injective (by simpa using hlen)
      (by simp only [List.length_cons] at heven; omega) h.2
    rw [hhi, hlo, hrest]
  | [], _ :: _, hlen, _, _ => by simp at hlen
  | _ :: _ :: _, [], hlen, _, _ => by simp at hlen
  | _ :: _ :: _, [_], hlen, _, _ => by simp at hlen

theorem length_groups : ∀ a : Bytes, (groups a).length = a.length / 2
  | [] => by simp [groups]
  | [_] => by simp [groups]
  | _ :: _ :: a => by
    simp only [groups, List.length_cons, length_groups a]
    omega

theorem string6_injective {a b : Bytes} (ha : a.length = 16) (hb : b.length = 16)
    (h : string6 (groups a) = string6 (groups b)) : a = b := by
  have hcolon : ∀ d < 16, ':' ≠ Nat.digitChar d := by decide
  have hne : ∀ x : Bytes, x.length = 16 → fields6 (groups x) ≠ [] := by
    intro x hx hnil
    have hg : groups x ≠ [] := by
      intro hg
      have := length_groups x
      simp [hg, hx] at this
    unfold fields6 at hnil
    split at hnil
    · exact hg (by simpa using hnil)
    · simp at hnil
  rw [string6_eq_intercalate, string6_eq_intercalate] at h
  have hfields := Text.intercalate_injective (fun _ hl => notMem_fields6 hcolon hl)
    (fun _ hl => notMem_fields6 hcolon hl) (hne a ha) (hne b hb) h
  refine groups_injective (by rw [ha, hb]) (by rw [ha]) (fields6_injective ?_ hfields)
  rw [length_groups, length_groups, ha, hb]

/-! ## Any address -/

theorem notMem_string6 {c : Char} (hc : ∀ d < 16, c ≠ Nat.digitChar d) (hcolon : c ≠ ':')
    (g : List Nat) : c ∉ string6 g := by
  intro hmem
  rw [string6_eq_intercalate] at hmem
  rcases Text.mem_intercalate hmem with h | ⟨l, hl, hcl⟩
  · exact hcolon h
  · exact notMem_fields6 hc hl hcl

theorem notMem_string4 {c : Char} (hc : ∀ d < 16, c ≠ Nat.digitChar d) (hdot : c ≠ '.')
    (b : Bytes) : c ∉ string4 b := by
  intro hmem
  rcases Text.mem_intercalate hmem with h | ⟨l, hl, hcl⟩
  · exact hdot h
  · obtain ⟨x, _, rfl⟩ := List.mem_map.mp hl
    exact notMem_decimal hc _ hcl

/-- Printed addresses consist of digits, dots and colons. -/
theorem notMem_emptyString {c : Char} (hc : ∀ d < 16, c ≠ Nat.digitChar d) (hdot : c ≠ '.')
    (hcolon : c ≠ ':') (a : IP) : c ∉ a.emptyString := by
  unfold emptyString
  split_ifs
  · exact List.not_mem_nil
  · split
    · exact notMem_string4 hc hdot _
    · exact notMem_string6 hc hcolon _

theorem dot_mem_string4 {b : Bytes} (h : b.length = 4) : '.' ∈ string4 b := by
  match b, h with
  | [w, x, y, z], _ => simp [string4]

theorem string6_ne_nil {a : Bytes} (ha : a.length = 16) : string6 (groups a) ≠ [] := by
  intro hnil
  unfold string6 at hnil
  split at hnil
  · match a, ha with
    | x :: y :: z :: w :: a, _ => simp [groups] at hnil
  · simp at hnil

/-- **Equal printed forms mean equal addresses.** -/
theorem emptyString_injective {a b : IP} (h : a.emptyString = b.emptyString) :
    a.to16 = b.to16 := by
  have hdot : ∀ d < 16, '.' ≠ Nat.digitChar d := by decide
  -- what the text looks like for each of the three kinds of address
  have hshape : ∀ x : IP, (x.bytes.length = 0 ∧ x.emptyString = []) ∨
      (∃ p, x.to4 = some p ∧ x.emptyString = string4 p) ∨
      (x.bytes.length = 16 ∧ x.to16 = some x.bytes ∧
        x.emptyString = string6 (groups x.bytes)) := by
    intro x
    by_cases h0 : x.bytes.length = 0
    · exact Or.inl ⟨h0, by simp [emptyString, h0]⟩
    · cases h4 : x.to4 with
      | some p => exact Or.inr (Or.inl ⟨p, rfl, by simp [emptyString, h0, h4]⟩)
      | none =>
        obtain ⟨h16, hlen⟩ := to16_of_to4_none h4 h0
        exact Or.inr (Or.inr ⟨hlen, h16, by simp [emptyString, h0, h4]⟩)
  rcases hshape a with ⟨ha, hta⟩ | ⟨p, ha, hta⟩ | ⟨hla, ha, hta⟩ <;>
    rcases hshape b with ⟨hb, htb⟩ | ⟨q, hb, htb⟩ | ⟨hlb, hb, htb⟩ <;>
    rw [hta, htb] at h
  · rw [to16, to16, ha, hb]; rfl
  · have := dot_mem_string4 (to16_of_to4 hb).2
    rw [← h] at this
    exact absurd this List.not_mem_nil
  · exact absurd h.symm (string6_ne_nil hlb)
  · have := dot_mem_string4 (to16_of_to4 ha).2
    rw [h] at this
    exact absurd this List.not_mem_nil
  · have hp := to16_of_to4 ha
    have hq := to16_of_to4 hb
    have hne : ∀ r : Bytes, r.length = 4 → r ≠ [] := by
      rintro r hr rfl
      simp at hr
    rw [hp.1, hq.1, string4_injective (hne p hp.2) (hne q hq.2) h]
  · have := dot_mem_string4 (to16_of_to4 ha).2
    rw [h] at this
    exact absurd this (notMem_string6 hdot (by decide) _)
  · exact absurd h (string6_ne_nil hla)
  · have := dot_mem_string4 (to16_of_to4 hb).2
    rw [← h] at this
    exact absurd this (notMem_string6 hdot (by decide) _)
  · rw [ha, hb, string6_injective hla hlb h]

end IP

namespace UDPAddr

/-! ## Hosts and ports -/

theorem joinHostPort_injective {h p h' p' : Text} (hp : ':' ∉ p) (hp' : ':' ∉ p')
    (hh : h.head? ≠ some '[') (hh' : h'.head? ≠ some '[')
    (heq : joinHostPort h p = joinHostPort h' p') : h = h' ∧ p = p' := by
  -- the port is what follows the last colon, bracketed or not
  have hform : ∀ x y : Text, joinHostPort x y =
      (if ':' ∈ x then '[' :: x ++ [']'] else x) ++ ':' :: y := by
    intro x y
    unfold joinHostPort
    split_ifs <;> simp
  rw [hform, hform] at heq
  obtain ⟨hhost, hport⟩ := Text.append_sep_injective_last hp hp' heq
  refine ⟨?_, hport⟩
  split_ifs at hhost with hc hc'
  · simpa using hhost
  · rw [← hhost] at hh'
    simp at hh'
  · rw [hhost] at hh
    simp at hh
  · exact hhost

/-- The host part of a printed address: IP and zone. -/
def host (a : UDPAddr) : Text :=
  if a.zone ≠ [] then a.ip.emptyString ++ '%' :: a.zone else a.ip.emptyString

theorem string_eq_joinHostPort (a : UDPAddr) :
    a.string = joinHostPort a.host (IP.decimal a.port.toNat) := by
  unfold string host
  split_ifs <;> rfl

theorem host_head (a : UDPAddr) : a.host.head? ≠ some '[' := by
  have hno : '[' ∉ a.ip.emptyString :=
    IP.notMem_emptyString (by decide) (by decide) (by decide) a.ip
  intro hhead
  unfold host at hhead
  split_ifs at hhead
  · cases hip : a.ip.emptyString with
    | nil => simp [hip] at hhead
    | cons c cs =>
      rw [hip] at hhead hno
      simp only [List.cons_append, List.head?_cons, Option.some.injEq] at hhead
      exact hno (by rw [hhead]; exact List.mem_cons_self)
  · exact hno (List.mem_of_mem_head? hhead)

theorem host_injective {a b : UDPAddr} (h : a.host = b.host) :
    a.ip.to16 = b.ip.to16 ∧ a.zone = b.zone := by
  have hpct : ∀ x : IP, '%' ∉ x.emptyString :=
    IP.notMem_emptyString (by decide) (by decide) (by decide)
  unfold host at h
  split_ifs at h with ha hb hb
  · -- the zone is what follows the first percent sign
    obtain ⟨hip, hzone⟩ := Text.append_sep_injective (hpct a.ip) (hpct b.ip) h
    exact ⟨IP.emptyString_injective hip, hzone⟩
  · exact absurd (by rw [← h]; simp) (hpct b.ip)
  · exact absurd (by rw [h]; simp) (hpct a.ip)
  · refine ⟨IP.emptyString_injective h, ?_⟩
    rw [not_not.mp ha, not_not.mp hb]

/-- **Addresses printed alike are one endpoint** (and have one zone). -/
theorem string_injective {a b : UDPAddr} (h : a.string = b.string) :
    a.sameEndpoint b = true ∧ a.zone = b.zone := by
  have hcolon : ∀ n, ':' ∉ IP.decimal n := IP.notMem_decimal (by decide)
  rw [string_eq_joinHostPort, string_eq_joinHostPort] at h
  obtain ⟨hhost, hport⟩ :=
    joinHostPort_injective (hcolon _) (hcolon _) (host_head a) (host_head b) h
  obtain ⟨hip, hzone⟩ := host_injective hhost
  refine ⟨sameEndpoint_iff.mpr ⟨hip, ?_⟩, hzone⟩
  exact UInt16.toNat_inj.mp (IP.decimal_injective hport)

end UDPAddr

end PilotBeacon.Net
