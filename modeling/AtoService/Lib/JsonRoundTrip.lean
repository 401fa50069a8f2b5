/-
Reading back what was written: `json.loads` of `json.dumps`.

A dict has one member a key (`WellFormed`) and its members in some order, which `sort_keys` replaces by the order of the
keys (`canon`). `loads_dumps`: text that was written is accepted, and what is read is the value that was written, with
every object in the order of its keys. So two values with one text differ in the order of members only
(`canon_eq_of_dumps_eq`). `loads_wellFormed`: whatever is read is well formed.

The proof follows the reader: numbers (`readNumber_int`, `readsAs_repr`), strings (`readString_quote`), and then
values, items and members together, by induction on the fuel (`reads`).
-/
import AtoService.Lib.JsonLoads

namespace AtoService

namespace KeyedList

theorem sorted_map {α β : Type} {key : α → String} {key' : β → String} (f : α → β) (hf : ∀ x, key' (f x) = key x)
    (xs : List α) : sorted key' (xs.map f) = (sorted key xs).map f := by
  rw [sorted, sorted]
  refine (List.map_insertionSort (fun a b => key a ≤ key b) (fun a b => key' a ≤ key' b) f xs fun a _ b _ => ?_).symm
  rw [hf, hf]

end KeyedList

namespace JsonText

/-! ## Digits -/

theorem natOf_foldl (ds : List Char) (n : Nat) :
    ds.foldl (fun n c => 10 * n + digitVal c) n = n * 10 ^ ds.length + natOf ds := by
  induction ds generalizing n with
  | nil => simp [natOf]
  | cons c ds ih =>
    have hcons : natOf (c :: ds) = (10 * 0 + digitVal c) * 10 ^ ds.length + natOf ds := ih (10 * 0 + digitVal c)
    rw [List.foldl_cons, ih, hcons, List.length_cons]
    ring

theorem natOf_append (ds es : List Char) : natOf (ds ++ es) = natOf ds * 10 ^ es.length + natOf es := by
  rw [natOf, List.foldl_append, natOf_foldl es]
  rfl

theorem natOf_cons (c : Char) (ds : List Char) : natOf (c :: ds) = digitVal c * 10 ^ ds.length + natOf ds := by
  have h := natOf_append [c] ds
  simpa [natOf] using h

theorem natOf_zeros (k : Nat) : natOf (List.replicate k '0') = 0 := by
  induction k with
  | zero => rfl
  | succ k ih =>
    rw [List.replicate_succ, natOf_cons, ih]
    simp [digitVal]

theorem digitVal_digitChar : ∀ d < 10, digitVal (Nat.digitChar d) = d := by decide

theorem isDigit_digitChar : ∀ d < 10, isDigit (Nat.digitChar d) = true := by decide

theorem digits_of_lt {n : Nat} (h : n < 10) : digits n = [Nat.digitChar n] := by
  rw [digits, Nat.toDigits_eq_if (by decide), if_pos h]

theorem digits_of_ge {n : Nat} (h : ¬n < 10) : digits n = digits (n / 10) ++ [Nat.digitChar (n % 10)] := by
  rw [digits, Nat.toDigits_eq_if (by decide), if_neg h]
  rfl

theorem natOf_digits (n : Nat) : natOf (digits n) = n := by
  induction n using Nat.strong_induction_on with
  | h n ih =>
    by_cases hn : n < 10
    · rw [digits_of_lt hn]
      simpa [natOf] using digitVal_digitChar n hn
    · have hmod : n % 10 < 10 := Nat.mod_lt _ (by decide)
      rw [digits_of_ge hn, natOf_append, ih (n / 10) (by omega), natOf_cons, digitVal_digitChar _ hmod]
      simp only [List.length_cons, List.length_nil, natOf, List.foldl_nil]
      omega

theorem isDigit_of_mem_digits {n : Nat} {c : Char} (h : c ∈ digits n) : isDigit c = true := by
  induction n using Nat.strong_induction_on with
  | h n ih =>
    by_cases hn : n < 10
    · rw [digits_of_lt hn, List.mem_singleton] at h
      exact h ▸ isDigit_digitChar n hn
    · rw [digits_of_ge hn, List.mem_append, List.mem_singleton] at h
      rcases h with h | rfl
      · exact ih (n / 10) (by omega) h
      · exact isDigit_digitChar _ (Nat.mod_lt _ (by decide))

theorem digits_ne_nil (n : Nat) : digits n ≠ [] := by
  by_cases hn : n < 10
  · simp [digits_of_lt hn]
  · simp [digits_of_ge hn]

/-- only zero is written with a leading zero -/
theorem head?_digits {n : Nat} (h : n ≠ 0) : (digits n).head? ≠ some '0' := by
  induction n using Nat.strong_induction_on with
  | h n ih =>
    by_cases hn : n < 10
    · have hdigit : ∀ d < 10, d ≠ 0 → Nat.digitChar d ≠ '0' := by decide
      rw [digits_of_lt hn, List.head?_cons, ne_eq, Option.some.injEq]
      exact hdigit n hn h
    · rw [digits_of_ge hn, List.head?_append_of_ne_nil _ (digits_ne_nil _)]
      exact ih (n / 10) (by omega) (by omega)

theorem digits_zero : digits 0 = ['0'] := rfl

/-! ## Numbers -/

/-- a text that ends a value: nothing, or what may stand after a value -/
def Ends (cs : List Char) : Prop := ∀ c ∈ cs.head?, c = ',' ∨ c = ']' ∨ c = '}'

theorem spanDigits_append {ds rest : List Char} (hd : ∀ c ∈ ds, isDigit c = true)
    (hr : ∀ c ∈ rest.head?, isDigit c = false) : spanDigits (ds ++ rest) = (ds, rest) := by
  have hrest : rest.takeWhile isDigit = [] ∧ rest.dropWhile isDigit = rest := by
    cases rest with
    | nil => exact ⟨rfl, rfl⟩
    | cons c cs => simp [hr c rfl]
  rw [spanDigits, List.span_eq_takeWhile_dropWhile, List.takeWhile_append_of_pos hd, List.dropWhile_append_of_pos hd,
    hrest.1, hrest.2, List.append_nil]

theorem Ends.not_digit {cs : List Char} (h : Ends cs) : ∀ c ∈ cs.head?, isDigit c = false := by
  intro c hc
  rcases h c hc with rfl | rfl | rfl <;> decide

theorem readFraction_of_ne {cs : List Char} (h : ∀ c ∈ cs.head?, c ≠ '.') : readFraction cs = ([], cs) := by
  unfold readFraction
  split
  · exact absurd rfl (h _ rfl)
  · rfl

theorem readFraction_digits {ds rest : List Char} (hne : ds ≠ []) (hd : ∀ c ∈ ds, isDigit c = true)
    (hr : ∀ c ∈ rest.head?, isDigit c = false) : readFraction ('.' :: (ds ++ rest)) = (ds, rest) := by
  rw [readFraction, spanDigits_append hd hr]
  cases ds with
  | nil => exact absurd rfl hne
  | cons c ds => rfl

theorem readExponent_of_ends {cs : List Char} (h : Ends cs) : readExponent cs = (none, cs) := by
  cases cs with
  | nil => rfl
  | cons c cs =>
    have hc : ¬(c = 'e' ∨ c = 'E') := by
      rcases h c rfl with rfl | rfl | rfl <;> decide
    unfold readExponent
    exact if_neg hc

theorem readExponent_expText (e : Int) {rest : List Char} (h : Ends rest) :
    readExponent ('e' :: (Decimal.expText e ++ rest)) = (some e, rest) := by
  -- the digits of the exponent, of which there are at least two
  obtain ⟨ds, hds, hne, hdigit, hnat⟩ : ∃ ds, (if (digits e.natAbs).length < 2 then '0' :: digits e.natAbs else
      digits e.natAbs) = ds ∧ ds ≠ [] ∧ (∀ c ∈ ds, isDigit c = true) ∧ natOf ds = e.natAbs := by
    refine ⟨_, rfl, ?_⟩
    split_ifs
    · refine ⟨by simp, fun c hc => ?_, ?_⟩
      · rcases List.mem_cons.1 hc with rfl | hc
        · decide
        · exact isDigit_of_mem_digits hc
      · rw [natOf_cons, natOf_digits]
        simp [digitVal]
    · exact ⟨digits_ne_nil _, fun c hc => isDigit_of_mem_digits hc, natOf_digits _⟩
  have htext : Decimal.expText e = (if e < 0 then '-' else '+') :: ds := by
    rw [Decimal.expText, ← hds]
  have hspan : spanDigits (ds ++ rest) = (ds, rest) := spanDigits_append hdigit h.not_digit
  obtain ⟨c, ds', rfl⟩ := List.exists_cons_of_ne_nil hne
  rw [htext]
  by_cases he : e < 0
  · rw [if_pos he]
    simp only [readExponent, List.cons_append, true_or, if_true]
    rw [← List.cons_append, hspan]
    simp only [hnat]
    congr 2
    omega
  · rw [if_neg he]
    simp only [readExponent, List.cons_append, true_or, if_true]
    rw [← List.cons_append, hspan]
    simp only [hnat, Bool.false_eq_true, if_false]
    congr 2
    omega

/-- what `readNumber` does after the whole part -/
def readAfterWhole (neg : Bool) (whole rest : List Char) : Option (Json × List Char) :=
  let (fraction, rest) := readFraction rest
  let (exponent, rest) := readExponent rest
  if fraction.isEmpty && exponent.isNone then
    let n : Int := natOf whole
    some (.int (if neg then -n else n), rest)
  else
    let exp := exponent.getD 0 - fraction.length
    some (.float (.finite (decimalOf neg (natOf (whole ++ fraction)) exp)), rest)

/-- the whole part of a number: digits without a leading zero, or a zero -/
theorem readNumber_whole (neg : Bool) {ds rest : List Char} (hne : ds ≠ []) (hd : ∀ c ∈ ds, isDigit c = true)
    (hzero : ds.head? = some '0' → ds = ['0']) (hr : ∀ c ∈ rest.head?, isDigit c = false) :
    readNumber neg (ds ++ rest) = readAfterWhole neg ds rest := by
  obtain ⟨c, ds, rfl⟩ := List.exists_cons_of_ne_nil hne
  by_cases hc : c = '0'
  · subst hc
    obtain rfl : ds = [] := List.cons_inj_right _ |>.1 (hzero rfl)
    rfl
  · have hspan := spanDigits_append hd hr
    rw [List.cons_append] at hspan ⊢
    unfold readNumber
    split
    next whole rest' heq =>
      split at heq
      · next hc' => exact absurd (List.cons.inj hc').1 hc
      · rw [hspan, Prod.mk.injEq] at heq
        obtain ⟨rfl, rfl⟩ := heq
        rfl

theorem readNumber_int (neg : Bool) (n : Nat) {rest : List Char} (hr : Ends rest) :
    readNumber neg (digits n ++ rest) = some (.int (if neg then -n else n), rest) := by
  have hzero : (digits n).head? = some '0' → digits n = ['0'] := by
    intro h
    by_cases hn : n = 0
    · rw [hn, digits_zero]
    · exact absurd h (head?_digits hn)
  have hfraction : readFraction rest = ([], rest) := by
    refine readFraction_of_ne fun c hc => ?_
    rcases hr c hc with rfl | rfl | rfl <;> decide
  rw [readNumber_whole neg (digits_ne_nil n) (fun c hc => isDigit_of_mem_digits hc) hzero hr.not_digit]
  simp [readAfterWhole, hfraction, readExponent_of_ends hr, natOf_digits]

/-- a number with a fraction or an exponent, from what its parts are read as -/
theorem readNumber_float (neg : Bool) {ws t fs t' rest : List Char} {e : Option Int} (hne : ws ≠ [])
    (hd : ∀ c ∈ ws, isDigit c = true) (hzero : ws.head? = some '0' → ws = ['0'])
    (ht : ∀ c ∈ t.head?, isDigit c = false) (hf : readFraction t = (fs, t')) (he : readExponent t' = (e, rest))
    (hfloat : fs ≠ [] ∨ e ≠ none) :
    readNumber neg (ws ++ t) =
      some (.float (.finite (decimalOf neg (natOf (ws ++ fs)) (e.getD 0 - fs.length))), rest) := by
  have hfloat' : (fs.isEmpty && e.isNone) = false := by
    rcases hfloat with h | h
    · simp [h]
    · simp [Option.isNone_eq_false_iff, Option.isSome_iff_ne_none, h]
  rw [readNumber_whole neg hne hd hzero ht]
  simp [readAfterWhole, hf, he, hfloat']

/-! ## Decimals -/

theorem stripZeros_pow {c : Nat} (hc : c % 10 ≠ 0) (j : Nat) (e : Int) {k : Nat} (hk : j ≤ k) :
    stripZeros k (c * 10 ^ j) e = (c, e + j) := by
  induction j generalizing e k with
  | zero =>
    cases k with
    | zero => simp [stripZeros]
    | succ k => simp [stripZeros, hc]
  | succ j ih =>
    obtain ⟨k, rfl⟩ : ∃ k', k = k' + 1 := ⟨k - 1, by omega⟩
    have hpos : 0 < c := by omega
    have hpow : c * 10 ^ (j + 1) = c * 10 ^ j * 10 := by ring
    have hne : c * 10 ^ j * 10 ≠ 0 := by positivity
    rw [stripZeros, hpow, if_pos ⟨Nat.mul_mod_left _ _, hne⟩, Nat.mul_div_cancel _ (by decide), ih (e + 1) (by omega)]
    congr 1
    push_cast
    ring

/-- a decimal, from its coefficient with zeros after it -/
theorem decimalOf_pow (d : Decimal) (j : Nat) : decimalOf d.neg (d.coeff * 10 ^ j) (d.exp - j) = d := by
  obtain ⟨neg, c, e, hnormal⟩ := d
  rcases hnormal with hc | ⟨rfl, rfl⟩
  · have hpos : 0 < c := by omega
    have hfuel : j ≤ c * 10 ^ j :=
      calc j ≤ 10 ^ j := (Nat.lt_pow_self (by decide)).le
        _ ≤ c * 10 ^ j := Nat.le_mul_of_pos_left _ hpos
    have hstrip := stripZeros_pow hc j (e - j) hfuel
    unfold decimalOf
    simp [hstrip, hc]
  · simp [decimalOf, stripZeros]

theorem digits_coeff (d : Decimal) : (digits d.coeff).head? = some '0' → digits d.coeff = ['0'] ∧ d.exp = 0 := by
  intro h
  have hc : d.coeff = 0 := by
    by_contra hne
    exact head?_digits hne h
  rcases d.normal with hn | ⟨-, he⟩
  · omega
  · exact ⟨by rw [hc, digits_zero], he⟩

/-- the text of a decimal after its sign -/
structure ReadsAs (d : Decimal) (text : List Char) : Prop where
  head : ∃ c cs, text = c :: cs ∧ isDigit c = true
  read : ∀ rest, Ends rest → readNumber d.neg (text ++ rest) = some (.float (.finite d), rest)

theorem isDigit_replicate {k : Nat} {c : Char} (h : c ∈ List.replicate k '0') : isDigit c = true := by
  rw [List.eq_of_mem_replicate h]
  decide

/-- digits with a point between them -/
theorem readsAs_point {d : Decimal} {ws fs : List Char} {j : Nat} (hne : ws ≠ []) (hd : ∀ c ∈ ws, isDigit c = true)
    (hzero : ws.head? = some '0' → ws = ['0']) (hfne : fs ≠ []) (hfd : ∀ c ∈ fs, isDigit c = true)
    (hval : natOf (ws ++ fs) = d.coeff * 10 ^ j) (hexp : d.exp - j = -(fs.length : Int)) :
    ReadsAs d (ws ++ '.' :: fs) where
  head := by
    obtain ⟨c, cs, rfl⟩ := List.exists_cons_of_ne_nil hne
    exact ⟨c, _, rfl, hd c List.mem_cons_self⟩
  read rest hr := by
    have hpoint : ∀ c ∈ ('.' :: (fs ++ rest)).head?, isDigit c = false := by
      rintro c ⟨⟩
      decide
    have hread := readNumber_float d.neg hne hd hzero hpoint (readFraction_digits hfne hfd hr.not_digit)
      (readExponent_of_ends hr) (Or.inl hfne)
    rw [List.append_assoc, List.cons_append, hread, hval, Option.getD_none, zero_sub, ← hexp, decimalOf_pow]

/-- digits, perhaps with a point between them, and an exponent -/
theorem readsAs_exponent {d : Decimal} {c : Char} {ds : List Char} (hd : ∀ x ∈ c :: ds, isDigit x = true)
    (hc : c ≠ '0') (hval : natOf (c :: ds) = d.coeff) {e : Int} (hexp : d.exp = e - ds.length) :
    ReadsAs d (c :: ((if ds = [] then [] else '.' :: ds) ++ 'e' :: Decimal.expText e)) where
  head := ⟨c, _, rfl, hd c List.mem_cons_self⟩
  read rest hr := by
    have hwhole : ∀ x ∈ [c], isDigit x = true := by
      intro x hx
      exact hd x (List.mem_cons.2 (Or.inl (List.mem_singleton.1 hx)))
    have hzero : [c].head? = some '0' → [c] = ['0'] := by
      intro h
      exact absurd (Option.some.inj h) hc
    have hexponent := readExponent_expText e hr
    have hread : readNumber d.neg ([c] ++ ((if ds = [] then [] else '.' :: ds) ++ 'e' :: (Decimal.expText e ++ rest))) =
        some (.float (.finite (decimalOf d.neg (natOf ([c] ++ ds)) (e - ds.length))), rest) := by
      have hletter : ∀ x ∈ ('e' :: (Decimal.expText e ++ rest)).head?, isDigit x = false := by
        rintro x ⟨⟩
        decide
      by_cases hds : ds = []
      · subst hds
        refine readNumber_float d.neg (by simp) hwhole hzero hletter (readFraction_of_ne ?_) hexponent
          (Or.inr (Option.some_ne_none _))
        rintro x ⟨⟩
        decide
      · rw [if_neg hds]
        refine readNumber_float d.neg (by simp) hwhole hzero ?_
          (readFraction_digits hds (fun x hx => hd x (List.mem_cons_of_mem _ hx)) hletter) hexponent (Or.inl hds)
        rintro x ⟨⟩
        decide
    have hpow := decimalOf_pow d 0
    rw [pow_zero, mul_one, Nat.cast_zero, sub_zero] at hpow
    have hval' : natOf ([c] ++ ds) = d.coeff := hval
    have htext : c :: ((if ds = [] then [] else '.' :: ds) ++ 'e' :: Decimal.expText e) ++ rest =
        [c] ++ ((if ds = [] then [] else '.' :: ds) ++ 'e' :: (Decimal.expText e ++ rest)) := by simp
    rw [htext, hread, hval', ← hexp, hpow]

/-- **A float is read back from its text.** -/
theorem readsAs_repr (d : Decimal) : ∃ text, d.repr = d.sign ++ text ∧ ReadsAs d text := by
  have hne := digits_ne_nil d.coeff
  have hd : ∀ c ∈ digits d.coeff, isDigit c = true := fun c hc => isDigit_of_mem_digits hc
  have hlen : d.point = (digits d.coeff).length + d.exp := rfl
  unfold Decimal.repr
  dsimp only
  split_ifs with hpoint hexp hpos
  · -- a whole number: zeros for the exponent, and one after the point
    refine ⟨digits d.coeff ++ List.replicate d.exp.toNat '0' ++ ['.', '0'], by simp [List.append_assoc], ?_⟩
    have hwhole : ∀ c ∈ digits d.coeff ++ List.replicate d.exp.toNat '0', isDigit c = true := by
      intro c hc
      rcases List.mem_append.1 hc with hc | hc
      · exact hd c hc
      · exact isDigit_replicate hc
    have hzero : ∀ c ∈ ['0'], isDigit c = true := List.forall_mem_singleton.2 rfl
    refine readsAs_point (j := d.exp.toNat + 1) (by simp [hne]) hwhole ?_ (by simp) hzero ?_ ?_
    · intro h
      rw [List.head?_append_of_ne_nil _ hne] at h
      obtain ⟨h0, he⟩ := digits_coeff d h
      rw [h0, he]
      rfl
    · rw [List.append_assoc, natOf_append, natOf_append, natOf_zeros, natOf_digits]
      simp [natOf, digitVal]
    · simp only [List.length_singleton]
      omega
  · -- a point between the digits
    have hp : d.point.toNat < (digits d.coeff).length := by omega
    refine ⟨_, by rw [List.append_assoc], ?_⟩
    refine readsAs_point (j := 0) ?_ (fun c hc => hd c (List.mem_of_mem_take hc)) ?_ ?_
      (fun c hc => hd c (List.mem_of_mem_drop hc)) ?_ ?_
    · intro h
      rcases List.take_eq_nil_iff.1 h with h | h
      · omega
      · exact hne h
    · intro h
      rw [List.head?_take, if_neg (by omega)] at h
      have := digits_coeff d h
      omega
    · intro h
      rw [List.drop_eq_nil_iff] at h
      omega
    · rw [List.take_append_drop, natOf_digits]
      simp
    · rw [List.length_drop]
      omega
  · -- zeros between the point and the digits
    refine ⟨['0'] ++ '.' :: (List.replicate (-d.point).toNat '0' ++ digits d.coeff), by simp, ?_⟩
    have hzero : ∀ c ∈ ['0'], isDigit c = true := List.forall_mem_singleton.2 rfl
    refine readsAs_point (j := 0) (by simp) hzero (fun _ => rfl) (by simp [hne]) ?_ ?_ ?_
    · intro c hc
      rcases List.mem_append.1 hc with hc | hc
      · exact isDigit_replicate hc
      · exact hd c hc
    · rw [natOf_append, natOf_append, natOf_zeros, natOf_digits]
      simp [natOf, digitVal]
    · rw [List.length_append, List.length_replicate]
      omega
  · -- an exponent
    have hcoeff : d.coeff ≠ 0 := by
      intro h
      rcases d.normal with hn | ⟨-, he⟩
      · omega
      · rw [h, digits_zero, he] at hlen
        simp at hlen
        omega
    obtain ⟨c, ds, hds⟩ := List.exists_cons_of_ne_nil hne
    have hc : c ≠ '0' := by
      rintro rfl
      exact head?_digits hcoeff (by rw [hds]; rfl)
    have hlen' : d.exp = (d.point - 1) - ds.length := by
      rw [hlen, hds, List.length_cons]
      push_cast
      ring
    have hreads := readsAs_exponent (by rwa [← hds]) hc (by rw [← hds, natOf_digits]) hlen'
    refine ⟨_, ?_, hreads⟩
    rw [hds]
    cases ds with
    | nil => rfl
    | cons x xs => simp

/-! ## Strings -/

theorem hexVal_hexChar : ∀ n < 16, hexVal (hexChar n) = some n := by decide

theorem escapeChar_plain {c : Char} (hq : c ≠ '"') (hb : c ≠ '\\') (hc : 32 ≤ c.toNat) : escapeChar c = [c] := by
  have hlt : ∀ d : Char, d.toNat < 32 → c ≠ d := by
    rintro d hd rfl
    omega
  unfold escapeChar
  rw [if_neg hq, if_neg hb, if_neg (hlt _ (by decide)), if_neg (hlt _ (by decide)), if_neg (hlt _ (by decide)),
    if_neg (by omega), if_neg (by omega), if_neg (by omega)]

/-- what `readString` makes of an escape, after the backslash -/
def unescape : List Char → Option (Char × List Char)
  | '"' :: cs => some ('"', cs)
  | '\\' :: cs => some ('\\', cs)
  | '/' :: cs => some ('/', cs)
  | 'b' :: cs => some (Char.ofNat 8, cs)
  | 'f' :: cs => some (Char.ofNat 12, cs)
  | 'n' :: cs => some ('\n', cs)
  | 'r' :: cs => some ('\r', cs)
  | 't' :: cs => some ('\t', cs)
  | 'u' :: cs => readUnicode cs
  | _ => none

theorem bind_consChar (c : Char) (o : Option (List Char × List Char)) :
    (o.bind fun p => pure (c :: p.1, p.2)) = o.map fun p => (c :: p.1, p.2) := by
  cases o <;> rfl

theorem readString_backslash (k : Nat) {c : Char} {es cs : List Char} (h : unescape es = some (c, cs)) :
    readString (k + 1) ('\\' :: es) = (readString k cs).map fun p => (c :: p.1, p.2) := by
  rw [readString, if_neg (by decide), if_pos rfl]
  unfold unescape at h
  dsimp only
  split at h
  case h_9 cs' =>
    simp only [h, Option.bind_eq_bind, Option.bind_some]
    exact bind_consChar _ _
  case h_10 => cases h
  all_goals
    obtain ⟨rfl, rfl⟩ := Prod.mk.inj (Option.some.inj h)
    simp only [Option.bind_eq_bind, Option.bind_some]
    exact bind_consChar _ _

/-- one escaped character is read back -/
theorem readString_escapeChar (k : Nat) (c : Char) (cs : List Char) :
    readString (k + 1) (escapeChar c ++ cs) = (readString k cs).map fun p => (c :: p.1, p.2) := by
  by_cases hplain : c ≠ '"' ∧ c ≠ '\\' ∧ 32 ≤ c.toNat
  · obtain ⟨hq, hb, hc⟩ := hplain
    rw [escapeChar_plain hq hb hc, List.singleton_append, readString, if_neg hq, if_neg hb, if_neg (by omega)]
    exact bind_consChar _ _
  · -- the characters that are escaped, one by one
    have hcases : c = '"' ∨ c = '\\' ∨ ∃ n < 32, c = Char.ofNat n := by
      by_cases hq : c = '"'
      · exact Or.inl hq
      by_cases hb : c = '\\'
      · exact Or.inr (Or.inl hb)
      · have hc : c.toNat < 32 := by
          by_contra hc
          exact hplain ⟨hq, hb, by omega⟩
        exact Or.inr (Or.inr ⟨c.toNat, hc, (Char.ofNat_toNat c).symm⟩)
    rcases hcases with rfl | rfl | ⟨n, hn, rfl⟩
    · exact readString_backslash k rfl
    · exact readString_backslash k rfl
    · interval_cases n <;> exact readString_backslash k rfl

theorem escapeChar_length (c : Char) : 1 ≤ (escapeChar c).length := by
  unfold escapeChar
  split_ifs <;> simp

/-- **A string is read back from its quoted text.** -/
theorem readString_escaped (cs : List Char) (rest : List Char) {k : Nat} (hk : cs.length < k) :
    readString k (cs.flatMap escapeChar ++ '"' :: rest) = some (cs, rest) := by
  induction cs generalizing k with
  | nil =>
    obtain ⟨k, rfl⟩ : ∃ k', k = k' + 1 := ⟨k - 1, by omega⟩
    rfl
  | cons c cs ih =>
    rw [List.length_cons] at hk
    obtain ⟨k, rfl⟩ : ∃ k', k = k' + 1 := ⟨k - 1, by omega⟩
    rw [List.flatMap_cons, List.append_assoc, readString_escapeChar, ih (by omega)]
    rfl

theorem length_le_flatMap_escapeChar (cs : List Char) : cs.length ≤ (cs.flatMap escapeChar).length := by
  induction cs with
  | nil => exact Nat.zero_le _
  | cons c cs ih =>
    have := escapeChar_length c
    rw [List.flatMap_cons, List.length_append, List.length_cons]
    omega

end JsonText

/-! ## Values -/

namespace Json

mutual

/-- every object has one member a key, as a dict has -/
def WellFormed : Json → Prop
  | .arr xs => WellFormedItems xs
  | .obj fs => KeyedList.Distinct Prod.fst fs ∧ WellFormedFields fs
  | _ => True

def WellFormedItems : List Json → Prop
  | [] => True
  | x :: xs => WellFormed x ∧ WellFormedItems xs

def WellFormedFields : List (String × Json) → Prop
  | [] => True
  | (_, v) :: fs => WellFormed v ∧ WellFormedFields fs

end

mutual

/-- the value with the members of every object in the order of their keys -/
def canon : Json → Json
  | .arr xs => .arr (canonItems xs)
  | .obj fs => .obj (KeyedList.sorted Prod.fst (canonFields fs))
  | v => v

def canonItems : List Json → List Json
  | [] => []
  | x :: xs => canon x :: canonItems xs

def canonFields : List (String × Json) → List (String × Json)
  | [] => []
  | (k, v) :: fs => (k, canon v) :: canonFields fs

end

mutual

/-- the fuel that reading takes -/
def cost : Json → Nat
  | .arr xs => 1 + costItems xs
  | .obj fs => 1 + costFields fs
  | _ => 1

def costItems : List Json → Nat
  | [] => 0
  | x :: xs => 1 + cost x + costItems xs

def costFields : List (String × Json) → Nat
  | [] => 0
  | (_, v) :: fs => 1 + cost v + costFields fs

end

theorem wellFormedItems_iff (xs : List Json) : WellFormedItems xs ↔ ∀ x ∈ xs, x.WellFormed := by
  induction xs with
  | nil => simp [WellFormedItems]
  | cons x xs ih => simp [WellFormedItems, ih]

theorem wellFormedFields_iff (fs : List (String × Json)) : WellFormedFields fs ↔ ∀ p ∈ fs, p.2.WellFormed := by
  induction fs with
  | nil => simp [WellFormedFields]
  | cons p fs ih => simp [WellFormedFields, ih]

theorem canonItems_eq (xs : List Json) : canonItems xs = xs.map canon := by
  induction xs with
  | nil => rfl
  | cons x xs ih => rw [canonItems, ih, List.map_cons]

theorem canonFields_eq (fs : List (String × Json)) : canonFields fs = fs.map fun p => (p.1, p.2.canon) := by
  induction fs with
  | nil => rfl
  | cons p fs ih => rw [canonFields, ih, List.map_cons]

theorem dumpsItems_eq (f : Separators) (xs : List Json) : dumpsItems f xs = xs.map (dumps f) := by
  induction xs with
  | nil => rfl
  | cons x xs ih => rw [dumpsItems, ih, List.map_cons]

/-- the text of a member -/
def memberText (f : Separators) (p : String × Json) : List Char := quote (Py.chars p.1) ++ f.key ++ dumps f p.2

theorem dumpsFields_eq (f : Separators) (fs : List (String × Json)) :
    dumpsFields f fs = fs.map fun p => (p.1, memberText f p) := by
  induction fs with
  | nil => rfl
  | cons p fs ih =>
    rw [dumpsFields, ih, List.map_cons]
    rfl

/-- the members of an object are written in the order of their keys -/
theorem dumps_obj (f : Separators) (fs : List (String × Json)) : dumps f (.obj fs) =
    '{' :: joinText f.item ((KeyedList.sorted Prod.fst fs).map (memberText f)) ++ ['}'] := by
  have hsorted : KeyedList.sorted Prod.fst (fs.map fun p => (p.1, memberText f p)) =
      (KeyedList.sorted Prod.fst fs).map fun p => (p.1, memberText f p) := KeyedList.sorted_map _ (fun _ => rfl) fs
  rw [dumps, dumpsFields_eq, hsorted, List.map_map]
  rfl

theorem canon_obj (fs : List (String × Json)) :
    canon (.obj fs) = .obj ((KeyedList.sorted Prod.fst fs).map fun p => (p.1, p.2.canon)) := by
  have hsorted : KeyedList.sorted Prod.fst (fs.map fun p => (p.1, p.2.canon)) =
      (KeyedList.sorted Prod.fst fs).map fun p => (p.1, p.2.canon) := KeyedList.sorted_map _ (fun _ => rfl) fs
  rw [canon, canonFields_eq, hsorted]

theorem costItems_eq (xs : List Json) : costItems xs = (xs.map fun x => 1 + x.cost).sum := by
  induction xs with
  | nil => rfl
  | cons x xs ih => rw [costItems, ih, List.map_cons, List.sum_cons]

theorem costFields_eq (fs : List (String × Json)) : costFields fs = (fs.map fun p => 1 + p.2.cost).sum := by
  induction fs with
  | nil => rfl
  | cons p fs ih => rw [costFields, ih, List.map_cons, List.sum_cons]

theorem costFields_sorted (fs : List (String × Json)) : costFields (KeyedList.sorted Prod.fst fs) = costFields fs := by
  rw [costFields_eq, costFields_eq]
  exact ((KeyedList.sorted_perm fs).map _).sum_eq

end Json

namespace Json

/-! ## A JSONB column keeps the order of the keys -/

mutual

theorem canon_jsonb : ∀ v : Json, v.jsonb.canon = v.canon.jsonb
  | .null | .bool _ | .int _ | .str _ | .float .nan | .float (.inf _) => rfl
  | .float (.finite d) => by
    by_cases h : d.printsWhole = true <;> simp [jsonb, canon, h]
  | .arr xs => by
    have ih := canonItems_jsonb xs
    rw [jsonb, canon, canon, jsonb, ih]
  | .obj fs => by
    have ih := canonFields_jsonb fs
    have hsorted : ∀ ps : List (String × Json), KeyedList.sorted Prod.fst (ps.map fun p => (p.1, p.2.jsonb)) =
        (KeyedList.sorted Prod.fst ps).map fun p => (p.1, p.2.jsonb) := fun ps =>
      KeyedList.sorted_map _ (fun _ => rfl) ps
    rw [jsonb, canon, canon, jsonb, ih, jsonbFields_eq, jsonbFields_eq, hsorted]

theorem canonItems_jsonb : ∀ xs : List Json, canonItems (jsonbItems xs) = jsonbItems (canonItems xs)
  | [] => rfl
  | x :: xs => by rw [jsonbItems, canonItems, canonItems, jsonbItems, canon_jsonb x, canonItems_jsonb xs]

theorem canonFields_jsonb : ∀ fs : List (String × Json), canonFields (jsonbFields fs) = jsonbFields (canonFields fs)
  | [] => rfl
  | (k, v) :: fs => by rw [jsonbFields, canonFields, canonFields, jsonbFields, canon_jsonb v, canonFields_jsonb fs]

end

mutual

theorem wellFormed_jsonb : ∀ v : Json, v.WellFormed → v.jsonb.WellFormed
  | .null, _ | .bool _, _ | .int _, _ | .str _, _ | .float .nan, _ | .float (.inf _), _ => trivial
  | .float (.finite d), _ => by
    by_cases h : d.printsWhole = true <;> simp [jsonb, WellFormed, h]
  | .arr xs, h => by
    rw [jsonb]
    exact wellFormedItems_jsonb xs h
  | .obj fs, h => by
    rw [jsonb]
    refine ⟨?_, wellFormedFields_jsonb fs h.2⟩
    rw [jsonbFields_eq]
    exact (KeyedList.distinct_map fun _ => rfl).2 h.1

theorem wellFormedItems_jsonb : ∀ xs : List Json, WellFormedItems xs → WellFormedItems (jsonbItems xs)
  | [], _ => trivial
  | x :: xs, h => ⟨wellFormed_jsonb x h.1, wellFormedItems_jsonb xs h.2⟩

theorem wellFormedFields_jsonb : ∀ fs : List (String × Json), WellFormedFields fs → WellFormedFields (jsonbFields fs)
  | [], _ => trivial
  | (_, v) :: fs, h => ⟨wellFormed_jsonb v h.1, wellFormedFields_jsonb fs h.2⟩

end

end Json

namespace JsonText

open Json

/-! ## Reading values back -/

/-- separators that are a comma and a colon, and blanks -/
structure Blanks (f : Separators) : Prop where
  item : ∃ ws, f.item = ',' :: ws ∧ ∀ c ∈ ws, isWs c = true
  key : ∃ ws, f.key = ':' :: ws ∧ ∀ c ∈ ws, isWs c = true

theorem blanks_compact : Blanks .compact := ⟨⟨[], rfl, by simp⟩, ⟨[], rfl, by simp⟩⟩

theorem blanks_spaced : Blanks .spaced :=
  ⟨⟨[' '], rfl, List.forall_mem_singleton.2 rfl⟩, ⟨[' '], rfl, List.forall_mem_singleton.2 rfl⟩⟩

/-- a text that a value may start -/
def Starts (cs : List Char) : Prop := ∃ c cs', cs = c :: cs' ∧ isWs c = false ∧ c ≠ ']' ∧ c ≠ '}'

theorem Starts.append {cs : List Char} (h : Starts cs) (ds : List Char) : Starts (cs ++ ds) := by
  obtain ⟨c, cs', rfl, hc⟩ := h
  exact ⟨c, cs' ++ ds, rfl, hc⟩

theorem skipWs_starts {cs : List Char} (h : Starts cs) : skipWs cs = cs := by
  obtain ⟨c, cs', rfl, hc, -⟩ := h
  rw [skipWs, List.dropWhile_cons, hc]
  rfl

theorem skipWs_blanks {ws cs : List Char} (hws : ∀ c ∈ ws, isWs c = true) (h : Starts cs) : skipWs (ws ++ cs) = cs := by
  rw [skipWs, List.dropWhile_append_of_pos hws]
  exact skipWs_starts h

theorem digit_starts {c : Char} (h : isDigit c = true) : isWs c = false ∧ c ≠ ']' ∧ c ≠ '}' ∧ c ≠ '"' ∧ c ≠ '[' ∧
    c ≠ '{' ∧ c ≠ '-' ∧ c ≠ 'n' ∧ c ≠ 't' ∧ c ≠ 'f' ∧ c ≠ 'N' ∧ c ≠ 'I' := by
  have hne : ∀ d : Char, isDigit d = false → c ≠ d := by
    rintro d hd rfl
    rw [h] at hd
    cases hd
  refine ⟨?_, hne _ (by decide), hne _ (by decide), hne _ (by decide), hne _ (by decide), hne _ (by decide),
    hne _ (by decide), hne _ (by decide), hne _ (by decide), hne _ (by decide), hne _ (by decide), hne _ (by decide)⟩
  simp [isWs, hne ' ' (by decide), hne '\t' (by decide), hne '\n' (by decide), hne '\r' (by decide)]

theorem dumps_starts (f : Separators) (v : Json) : Starts (dumps f v) := by
  have hdigit : ∀ {c : Char} {cs : List Char}, isDigit c = true → Starts (c :: cs) := fun h =>
    ⟨_, _, rfl, (digit_starts h).1, (digit_starts h).2.1, (digit_starts h).2.2.1⟩
  cases v with
  | null => exact ⟨'n', _, rfl, by decide⟩
  | bool b => cases b <;> exact ⟨_, _, rfl, by decide⟩
  | int n =>
    show Starts (intText n)
    unfold intText
    split_ifs
    · exact ⟨'-', _, rfl, by decide⟩
    · obtain ⟨c, cs, hcs⟩ := List.exists_cons_of_ne_nil (digits_ne_nil n.natAbs)
      rw [hcs]
      exact hdigit (isDigit_of_mem_digits (n := n.natAbs) (by rw [hcs]; exact List.mem_cons_self))
  | float x =>
    show Starts x.text
    cases x with
    | nan => exact ⟨'N', _, rfl, by decide⟩
    | inf neg => cases neg <;> exact ⟨_, _, rfl, by decide⟩
    | finite d =>
      obtain ⟨text, htext, ⟨c, cs, rfl, hc⟩, -⟩ := readsAs_repr d
      show Starts d.repr
      rw [htext]
      unfold Decimal.sign
      split_ifs
      · exact ⟨'-', _, rfl, by decide⟩
      · exact hdigit hc
  | str s => exact ⟨'"', _, rfl, by decide⟩
  | arr xs => exact ⟨'[', _, rfl, by decide⟩
  | obj fs => exact ⟨'{', _, rfl, by decide⟩

theorem keyword_ne {c d : Char} {word cs : List Char} {v : Json} (h : c ≠ d) : keyword (d :: word) v (c :: cs) = none := by
  rw [keyword, List.isPrefixOf_cons_cons, beq_false_of_ne h.symm, Bool.false_and]
  rfl

theorem readValue_digit (k : Nat) {c : Char} {cs : List Char} (h : isDigit c = true) :
    readValue (k + 1) (c :: cs) = readNumber false (c :: cs) := by
  obtain ⟨-, -, -, hq, hb, hbr, hm, hn, ht, hf, hN, hI⟩ := digit_starts h
  rw [readValue, if_neg hq, if_neg hb, if_neg hbr, if_neg hm, keyword_ne hn, keyword_ne ht, keyword_ne hf, keyword_ne hN,
    keyword_ne hI]
  rfl

theorem readValue_minus (k : Nat) {c : Char} {cs : List Char} (h : isDigit c = true) :
    readValue (k + 1) ('-' :: c :: cs) = readNumber true (c :: cs) := by
  obtain ⟨-, -, -, -, -, -, -, -, -, -, -, hI⟩ := digit_starts h
  rw [readValue, if_neg (by decide), if_neg (by decide), if_neg (by decide), if_pos rfl, keyword_ne hI]
  rfl

/-- a number with its sign -/
theorem readValue_number (k : Nat) (neg : Bool) {c : Char} (cs : List Char) (h : isDigit c = true) :
    readValue (k + 1) ((if neg then ['-'] else []) ++ c :: cs) = readNumber neg (c :: cs) := by
  cases neg
  · exact readValue_digit k h
  · exact readValue_minus k h

theorem readValue_int (k : Nat) (n : Int) {rest : List Char} (hr : Ends rest) :
    readValue (k + 1) (intText n ++ rest) = some (.int n, rest) := by
  obtain ⟨c, cs, hcs⟩ := List.exists_cons_of_ne_nil (digits_ne_nil n.natAbs)
  have hc : isDigit c = true := isDigit_of_mem_digits (n := n.natAbs) (by rw [hcs]; exact List.mem_cons_self)
  have hnumber := readValue_number k (decide (n < 0)) (cs ++ rest) hc
  have hread := readNumber_int (decide (n < 0)) n.natAbs hr
  rw [hcs, List.cons_append] at hread
  rw [intText, hcs, List.append_assoc, List.cons_append]
  simp only [decide_eq_true_eq] at hnumber hread
  rw [hnumber, hread]
  congr 3
  split_ifs <;> omega

theorem readValue_float (k : Nat) (x : PyFloat) {rest : List Char} (hr : Ends rest) :
    readValue (k + 1) (x.text ++ rest) = some (.float x, rest) := by
  cases x with
  | nan => rfl
  | inf neg => cases neg <;> rfl
  | finite d =>
    obtain ⟨text, htext, ⟨c, cs, rfl, hc⟩, hread⟩ := readsAs_repr d
    have hnumber := readValue_number k d.neg (cs ++ rest) hc
    show readValue (k + 1) (d.repr ++ rest) = _
    rw [htext, Decimal.sign, List.append_assoc, List.cons_append, hnumber]
    exact hread rest hr

theorem readString_quote (s : String) (rest : List Char) {n : Nat}
    (hn : ((Py.chars s).flatMap escapeChar ++ '"' :: rest).length ≤ n) :
    readString (n + 1) ((Py.chars s).flatMap escapeChar ++ '"' :: rest) = some (Py.chars s, rest) := by
  have := length_le_flatMap_escapeChar (Py.chars s)
  rw [List.length_append] at hn
  exact readString_escaped _ _ (by omega)

theorem quote_append (s : String) (rest : List Char) :
    quote (Py.chars s) ++ rest = '"' :: ((Py.chars s).flatMap escapeChar ++ '"' :: rest) := by
  simp [quote]

theorem ofList_chars (s : String) : String.ofList (Py.chars s) = s := by
  rw [Py.chars_eq, String.ofList_toList]

theorem readValue_str (k : Nat) (s : String) (rest : List Char) :
    readValue (k + 1) (quote (Py.chars s) ++ rest) = some (.str s, rest) := by
  rw [quote_append, readValue, if_pos rfl, readString_quote s rest le_rfl, Option.map_some, ofList_chars]

theorem joinText_cons (sep t : List Char) (ts : List (List Char)) :
    joinText sep (t :: ts) = t ++ (if ts = [] then [] else sep ++ joinText sep ts) := by
  cases ts with
  | nil => simp [joinText]
  | cons u us => simp [joinText]

/-- what fuel `k` reads -/
structure Reads (f : Separators) (k : Nat) : Prop where
  value : ∀ v rest, v.WellFormed → v.cost ≤ k → Ends rest → readValue k (dumps f v ++ rest) = some (v.canon, rest)
  items : ∀ xs rest, xs ≠ [] → (∀ x ∈ xs, x.WellFormed) → costItems xs ≤ k →
    readItems k (joinText f.item (xs.map (dumps f)) ++ ']' :: rest) = some (xs.map canon, rest)
  members : ∀ ps rest, ps ≠ [] → (∀ p ∈ ps, WellFormed p.2) → costFields ps ≤ k →
    readMembers k (joinText f.item (ps.map (memberText f)) ++ '}' :: rest) =
      some (ps.map fun p => (p.1, p.2.canon), rest)

section

variable {f : Separators} {k : Nat}

theorem reads_value (h : Reads f k) (v : Json) (rest : List Char) (hv : v.WellFormed) (hk : v.cost ≤ k + 1)
    (hr : Ends rest) : readValue (k + 1) (dumps f v ++ rest) = some (v.canon, rest) := by
  cases v with
  | null => rfl
  | bool b => cases b <;> rfl
  | int n => exact readValue_int k n hr
  | float x => exact readValue_float k x hr
  | str s => exact readValue_str k s rest
  | arr xs =>
    rw [dumps, canon, dumpsItems_eq, canonItems_eq, List.append_assoc, List.cons_append, List.singleton_append, readValue,
      if_neg (by decide), if_pos rfl]
    cases xs with
    | nil => rfl
    | cons x xs =>
      have hread := h.items (x :: xs) rest (by simp) ((wellFormedItems_iff _).1 hv) (by rw [cost] at hk; omega)
      have hstarts : Starts (joinText f.item ((x :: xs).map (dumps f)) ++ ']' :: rest) := by
        rw [List.map_cons, joinText_cons, List.append_assoc]
        exact (dumps_starts f x).append _
      rw [skipWs_starts hstarts]
      obtain ⟨c, cs, hcs, -, hne, -⟩ := hstarts
      rw [hcs] at hread ⊢
      split
      · next heq => exact absurd (List.cons.inj heq).1 hne
      · rw [hread]
        rfl
  | obj fs =>
    obtain ⟨hdistinct, hfields⟩ := hv
    have hmem : ∀ p ∈ KeyedList.sorted Prod.fst fs, WellFormed p.2 := fun p hp =>
      (wellFormedFields_iff fs).1 hfields p (KeyedList.mem_sorted.1 hp)
    have hcost : costFields (KeyedList.sorted Prod.fst fs) ≤ k := by
      rw [costFields_sorted]
      rw [cost] at hk
      omega
    have hkeys : KeyedList.Distinct Prod.fst ((KeyedList.sorted Prod.fst fs).map fun p => (p.1, p.2.canon)) :=
      (KeyedList.distinct_map fun _ => rfl).2 (KeyedList.distinct_sorted hdistinct)
    rw [dumps_obj, canon_obj, List.append_assoc, List.cons_append, List.singleton_append, readValue, if_neg (by decide),
      if_neg (by decide), if_pos rfl]
    generalize KeyedList.sorted Prod.fst fs = ps at hmem hcost hkeys ⊢
    cases ps with
    | nil => rfl
    | cons p ps =>
      have hread := h.members (p :: ps) rest (by simp) hmem hcost
      have htext : ∃ cs, joinText f.item ((p :: ps).map (memberText f)) ++ '}' :: rest = '"' :: cs := by
        rw [List.map_cons, joinText_cons, List.append_assoc, memberText, quote]
        exact ⟨_, rfl⟩
      obtain ⟨cs, hcs⟩ := htext
      rw [hcs] at hread ⊢
      rw [skipWs_starts ⟨'"', cs, rfl, by decide⟩]
      show (readMembers k ('"' :: cs)).map (fun q => (Json.obj (KeyedList.ofList Prod.fst q.1), q.2)) = _
      rw [hread, Option.map_some, KeyedList.ofList_eq hkeys]

theorem reads_items (hf : Blanks f) (h : Reads f k) (xs : List Json) (rest : List Char) (hne : xs ≠ [])
    (hv : ∀ x ∈ xs, x.WellFormed) (hk : costItems xs ≤ k + 1) :
    readItems (k + 1) (joinText f.item (xs.map (dumps f)) ++ ']' :: rest) = some (xs.map canon, rest) := by
  obtain ⟨x, xs, rfl⟩ := List.exists_cons_of_ne_nil hne
  obtain ⟨ws, hitem, hws⟩ := hf.item
  rw [costItems] at hk
  have hx := hv x List.mem_cons_self
  rw [List.map_cons, joinText_cons, List.append_assoc, readItems]
  cases xs with
  | nil =>
    rw [List.map_nil, if_pos rfl, List.nil_append,
      h.value x (']' :: rest) hx (by omega) (by rintro c ⟨⟩; exact Or.inr (Or.inl rfl))]
    rfl
  | cons y ys =>
    have hread := h.items (y :: ys) rest (by simp) (fun z hz => hv z (List.mem_cons_of_mem _ hz)) (by omega)
    have hstarts : Starts (joinText f.item ((y :: ys).map (dumps f)) ++ ']' :: rest) := by
      rw [List.map_cons, joinText_cons, List.append_assoc]
      exact (dumps_starts f y).append _
    rw [if_neg (by simp), List.append_assoc, hitem, List.cons_append,
      h.value x _ hx (by omega) (by rintro c ⟨⟩; exact Or.inl rfl), ← hitem]
    show (readItems k (skipWs (ws ++ _))).map _ = _
    rw [skipWs_blanks hws hstarts, hread]
    rfl

/-- what follows a member `(key, v)`: the brace that closes the object, or a comma and the other members -/
def membersAfter (k : Nat) (key : String) (v : Json) : List Char → Option (List (String × Json) × List Char)
  | '}' :: rest => some ([(key, v)], rest)
  | ',' :: rest => (readMembers k (skipWs rest)).map fun q => ((key, v) :: q.1, q.2)
  | _ => none

theorem reads_members (hf : Blanks f) (h : Reads f k) (ps : List (String × Json)) (rest : List Char) (hne : ps ≠ [])
    (hv : ∀ p ∈ ps, WellFormed p.2) (hk : costFields ps ≤ k + 1) :
    readMembers (k + 1) (joinText f.item (ps.map (memberText f)) ++ '}' :: rest) =
      some (ps.map fun p => (p.1, p.2.canon), rest) := by
  obtain ⟨p, ps, rfl⟩ := List.exists_cons_of_ne_nil hne
  obtain ⟨ws, hitem, hws⟩ := hf.item
  obtain ⟨ws', hkey, hws'⟩ := hf.key
  obtain ⟨key, v⟩ := p
  rw [costFields] at hk
  have hx : v.WellFormed := hv (key, v) List.mem_cons_self
  -- the key, the colon and the value, with whatever text comes after the value
  have hmember : ∀ rest', Ends rest' → readMembers (k + 1) (memberText f (key, v) ++ rest') =
      membersAfter k key v.canon (skipWs rest') := by
    intro rest' hr
    have hcolon : skipWs (f.key ++ (dumps f v ++ rest')) = ':' :: (ws' ++ (dumps f v ++ rest')) := by
      rw [hkey, List.cons_append]
      exact skipWs_starts ⟨':', _, rfl, by decide⟩
    rw [memberText, List.append_assoc, List.append_assoc, quote_append, readMembers, readString_quote key _ le_rfl]
    simp only [hcolon, skipWs_blanks hws' ((dumps_starts f v).append rest'), h.value v rest' hx (by omega) hr,
      ofList_chars]
    rfl
  rw [List.map_cons, joinText_cons, List.append_assoc]
  cases ps with
  | nil =>
    rw [List.map_nil, if_pos rfl, List.nil_append, hmember _ (by rintro c ⟨⟩; exact Or.inr (Or.inr rfl))]
    rfl
  | cons q qs =>
    have hread := h.members (q :: qs) rest (by simp) (fun z hz => hv z (List.mem_cons_of_mem _ hz)) (by omega)
    have hstarts : Starts (joinText f.item ((q :: qs).map (memberText f)) ++ '}' :: rest) := by
      rw [List.map_cons, joinText_cons, List.append_assoc, memberText, quote]
      exact ⟨'"', _, rfl, by decide⟩
    rw [if_neg (by simp), List.append_assoc, hitem, List.cons_append, hmember _ (by rintro c ⟨⟩; exact Or.inl rfl), ← hitem]
    have hcomma (cs : List Char) : membersAfter k key v.canon (skipWs (',' :: cs)) =
        (readMembers k (skipWs cs)).map fun q => ((key, v.canon) :: q.1, q.2) := rfl
    rw [hcomma, skipWs_blanks hws hstarts, hread]
    rfl

end

theorem reads {f : Separators} (hf : Blanks f) (k : Nat) : Reads f k := by
  induction k with
  | zero =>
    refine ⟨fun v _ _ hk => ?_, fun xs _ hne _ hk => ?_, fun ps _ hne _ hk => ?_⟩
    · cases v <;> simp [cost] at hk
    · obtain ⟨x, xs, rfl⟩ := List.exists_cons_of_ne_nil hne
      simp [costItems] at hk
    · obtain ⟨p, ps, rfl⟩ := List.exists_cons_of_ne_nil hne
      simp [costFields] at hk
  | succ k ih =>
    exact ⟨reads_value ih, reads_items hf ih, reads_members hf ih⟩

/-! ## The fuel is enough -/

theorem joinText_length (sep : List Char) (hsep : 1 ≤ sep.length) (ts : List (List Char)) :
    (ts.map fun t => 1 + t.length).sum ≤ (joinText sep ts).length + 1 := by
  induction ts with
  | nil => simp
  | cons t ts ih =>
    rw [List.map_cons, List.sum_cons, joinText_cons, List.length_append]
    cases ts with
    | nil =>
      simp
      omega
    | cons u us =>
      rw [if_neg (by simp), List.length_append]
      omega

theorem cost_le {f : Separators} (hf : Blanks f) (k : Nat) : ∀ v : Json, v.cost ≤ k → v.cost ≤ (dumps f v).length := by
  have hitem : 1 ≤ f.item.length := by
    obtain ⟨ws, h, -⟩ := hf.item
    simp [h]
  have hpos : ∀ v, 1 ≤ (dumps f v).length := by
    intro v
    obtain ⟨c, cs, h, -⟩ := dumps_starts f v
    simp [h]
  induction k with
  | zero => 
    intro v hk
    exact hk.trans (Nat.zero_le _)
  | succ k ih =>
    intro v hk
    cases v with
    | null => exact hpos _
    | bool b => exact hpos (.bool b)
    | int n => exact hpos (.int n)
    | float x => exact hpos (.float x)
    | str s => exact hpos (.str s)
    | arr xs =>
      rw [cost, costItems_eq] at hk ⊢
      have hsum : (xs.map fun x => 1 + x.cost).sum ≤ (xs.map fun x => 1 + (dumps f x).length).sum := by
        refine List.sum_le_sum fun x hx => ?_
        have := List.single_le_sum (l := xs.map fun x => 1 + x.cost) (by simp) _ (List.mem_map_of_mem hx)
        have := ih x (by omega)
        omega
      have hjoin := joinText_length f.item hitem (xs.map (dumps f))
      rw [List.map_map] at hjoin
      rw [dumps, dumpsItems_eq, List.length_append, List.length_cons, List.length_singleton]
      simp only [Function.comp_def] at hjoin
      omega
    | obj fs =>
      rw [cost, ← costFields_sorted, costFields_eq] at hk ⊢
      rw [dumps_obj, List.length_append, List.length_cons, List.length_singleton]
      generalize KeyedList.sorted Prod.fst fs = ps at hk ⊢
      have hsum : (ps.map fun p => 1 + p.2.cost).sum ≤ (ps.map fun p => 1 + (memberText f p).length).sum := by
        refine List.sum_le_sum fun p hp => ?_
        have := List.single_le_sum (l := ps.map fun p => 1 + p.2.cost) (by simp) _ (List.mem_map_of_mem hp)
        have := ih p.2 (by omega)
        simp only [memberText, List.length_append]
        omega
      have hjoin := joinText_length f.item hitem (ps.map (memberText f))
      rw [List.map_map] at hjoin
      simp only [Function.comp_def] at hjoin
      omega

/-- **What was written is read back**, with every object in the order of its keys. -/
theorem loads_dumps {f : Separators} (hf : Blanks f) {v : Json} (hv : v.WellFormed) : loads (dumps f v) = some v.canon := by
  have hcost := cost_le hf v.cost v le_rfl
  have hread := (reads hf (2 * (dumps f v).length + 2)).value v [] hv (by omega) (by rintro c ⟨⟩)
  rw [List.append_nil] at hread
  unfold loads
  rw [skipWs_starts (dumps_starts f v), hread]
  rfl

/-- two values with one text differ in the order of members only -/
theorem canon_eq_of_dumps_eq {f : Separators} (hf : Blanks f) {v v' : Json} (hv : v.WellFormed) (hv' : v'.WellFormed)
    (h : dumps f v = dumps f v') : v.canon = v'.canon := by
  have hread := loads_dumps hf hv
  rw [h, loads_dumps hf hv', Option.some.injEq] at hread
  exact hread.symm

/-- the members of an object in the order of their keys -/
theorem member_canon {fs : List (String × Json)} (hv : (Json.obj fs).WellFormed) (key : String) :
    member key ((KeyedList.sorted Prod.fst fs).map fun p => (p.1, p.2.canon)) = (member key fs).map canon := by
  have hmap : KeyedList.get? Prod.fst key ((KeyedList.sorted Prod.fst fs).map fun p => (p.1, p.2.canon)) =
      (KeyedList.get? Prod.fst key (KeyedList.sorted Prod.fst fs)).map fun p => (p.1, p.2.canon) :=
    KeyedList.get?_map (fun _ => rfl) key _
  rw [member, member, hmap, KeyedList.get?_sorted hv.1, Option.map_map, Option.map_map]
  rfl

theorem member_canon_of_canon_eq {fs fs' : List (String × Json)} (hv : (Json.obj fs).WellFormed)
    (hv' : (Json.obj fs').WellFormed) (h : (Json.obj fs).canon = (Json.obj fs').canon) (key : String) :
    (member key fs).map canon = (member key fs').map canon := by
  rw [canon_obj, canon_obj, Json.obj.injEq] at h
  rw [← member_canon hv, h, member_canon hv']

/-- two objects with one text have the same members -/
theorem member_canon_of_dumps_eq {f : Separators} (hf : Blanks f) {fs fs' : List (String × Json)}
    (hv : (Json.obj fs).WellFormed) (hv' : (Json.obj fs').WellFormed) (h : dumps f (.obj fs) = dumps f (.obj fs'))
    (key : String) : (member key fs).map canon = (member key fs').map canon :=
  member_canon_of_canon_eq hv hv' (canon_eq_of_dumps_eq hf hv hv' h) key

/-! ## What is read -/

theorem readNumber_wellFormed {neg : Bool} {cs rest : List Char} {v : Json} (h : readNumber neg cs = some (v, rest)) :
    v.WellFormed := by
  unfold readNumber at h
  dsimp only at h
  split_ifs at h
  all_goals
    obtain ⟨rfl, -⟩ := Prod.mk.inj (Option.some.inj h)
    trivial

theorem keyword_eq {word cs rest : List Char} {v w : Json} (h : keyword word w cs = some (v, rest)) : v = w := by
  unfold keyword at h
  split_ifs at h
  exact (Prod.mk.inj (Option.some.inj h)).1.symm

/-- by induction on the fuel, for values, items and members together -/
theorem read_wellFormed (k : Nat) :
    (∀ {cs rest : List Char} {v : Json}, readValue k cs = some (v, rest) → v.WellFormed) ∧
      (∀ {cs rest : List Char} {xs : List Json}, readItems k cs = some (xs, rest) → WellFormedItems xs) ∧
      ∀ {cs rest : List Char} {fs : List (String × Json)}, readMembers k cs = some (fs, rest) →
        WellFormedFields fs := by
  induction k with
  | zero =>
    refine ⟨fun h => ?_, fun h => ?_, fun h => ?_⟩
    · rw [readValue] at h; cases h
    · rw [readItems] at h; cases h
    · rw [readMembers] at h; cases h
  | succ k ih =>
    obtain ⟨hvalue, hitems, hmembers⟩ := ih
    refine ⟨fun {cs rest v} h => ?_, fun {cs rest xs} h => ?_, fun {cs rest fs} h => ?_⟩
    · cases cs with
      | nil => simp [readValue] at h
      | cons c cs =>
        have hword : ∀ {word cs : List Char} {w : Json}, keyword word w cs = some (v, rest) → w.WellFormed →
            v.WellFormed := by
          intro word cs w hk hw
          rw [keyword_eq hk]
          exact hw
        rw [readValue] at h
        split_ifs at h
        · obtain ⟨⟨ds, rest'⟩, -, heq⟩ := Option.map_eq_some_iff.1 h
          cases heq
          trivial
        · split at h
          · cases h
            trivial
          · obtain ⟨⟨xs, rest'⟩, hread, heq⟩ := Option.map_eq_some_iff.1 h
            cases heq
            exact hitems hread
        · split at h
          · cases h
            exact ⟨List.nodup_nil, trivial⟩
          · -- a dict keeps the last of two members with one key
            obtain ⟨⟨fs, rest'⟩, hread, heq⟩ := Option.map_eq_some_iff.1 h
            cases heq
            refine ⟨KeyedList.distinct_ofList fs, (wellFormedFields_iff _).2 fun p hp => ?_⟩
            exact (wellFormedFields_iff _).1 (hmembers hread) p (KeyedList.mem_ofList hp)
        · rcases Option.or_eq_some_iff.1 h with h | ⟨-, h⟩
          · exact hword h trivial
          · exact readNumber_wellFormed h
        · rcases Option.or_eq_some_iff.1 h with h | ⟨-, h⟩
          · exact hword h trivial
          rcases Option.or_eq_some_iff.1 h with h | ⟨-, h⟩
          · exact hword h trivial
          rcases Option.or_eq_some_iff.1 h with h | ⟨-, h⟩
          · exact hword h trivial
          rcases Option.or_eq_some_iff.1 h with h | ⟨-, h⟩
          · exact hword h trivial
          rcases Option.or_eq_some_iff.1 h with h | ⟨-, h⟩
          · exact hword h trivial
          · exact readNumber_wellFormed h
    · rw [readItems] at h
      split at h
      · rename_i v mid hread
        split at h
        · cases h
          exact ⟨hvalue hread, trivial⟩
        · obtain ⟨⟨xs', rest''⟩, hrest, heq'⟩ := Option.map_eq_some_iff.1 h
          cases heq'
          exact ⟨hvalue hread, hitems hrest⟩
        · cases h
      · cases h
    · unfold readMembers at h
      split at h
      · split at h
        · split at h
          · split at h
            · rename_i v rest₁ hread
              split at h
              · cases h
                exact ⟨hvalue hread, trivial⟩
              · obtain ⟨⟨fs', rest''⟩, hrest, heq''⟩ := Option.map_eq_some_iff.1 h
                cases heq''
                exact ⟨hvalue hread, hmembers hrest⟩
              · cases h
            · cases h
          · cases h
        · cases h
      · cases h

/-- **Whatever is read** has one member a key in every object. -/
theorem loads_wellFormed {cs : List Char} {v : Json} (h : loads cs = some v) : v.WellFormed := by
  unfold loads at h
  split at h
  · rename_i w rest hread
    split_ifs at h
    exact Option.some.inj h ▸ (read_wellFormed _).1 hread
  · cases h

end JsonText

end AtoService
