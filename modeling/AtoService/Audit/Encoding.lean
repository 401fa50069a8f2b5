/-
The canonical payload of an audit event is read back from its bytes.

`formatOccurredAt_injective`: the text of an instant is unambiguous, whatever its fraction of a second.
`canonicalJsonBytes_injective`: two events with one canonical text agree in every field that the digest covers, but the
metadata has to be a dict in both. The text is read from its front, member by member, whatever list or null the metadata is
made a dict from.
-/
import AtoService.Audit.Event
import AtoService.Workspace.Document

namespace AtoService.Audit

open JsonText (natOf isDigit)

/-! ## Instants -/

theorem digits_injective {m n : Nat} (h : digits m = digits n) : m = n := by
  rw [← JsonText.natOf_digits m, h, JsonText.natOf_digits]

/-- digits before a character that is none -/
theorem digits_append {m n : Nat} {c d : Char} {cs ds : List Char} (hc : isDigit c = false) (hd : isDigit d = false)
    (h : digits m ++ c :: cs = digits n ++ d :: ds) : m = n ∧ c :: cs = d :: ds := by
  have hm : JsonText.spanDigits (digits m ++ c :: cs) = (digits m, c :: cs) :=
    JsonText.spanDigits_append (fun x hx => JsonText.isDigit_of_mem_digits hx) (by rintro x ⟨⟩; exact hc)
  have hn : JsonText.spanDigits (digits n ++ d :: ds) = (digits n, d :: ds) :=
    JsonText.spanDigits_append (fun x hx => JsonText.isDigit_of_mem_digits hx) (by rintro x ⟨⟩; exact hd)
  rw [h, hn, Prod.mk.injEq] at hm
  exact ⟨(digits_injective hm.1).symm, hm.2.symm⟩

theorem natOf_twoDigits {n : Nat} (hn : n < 100) : natOf (twoDigits n) = n := by
  have htens := JsonText.digitVal_digitChar (n / 10) (by omega)
  have hones := JsonText.digitVal_digitChar (n % 10) (by omega)
  simp only [twoDigits, natOf, List.foldl_cons, List.foldl_nil, htens, hones]
  omega

/-- two digits before whatever follows -/
theorem twoDigits_append {m n : Nat} {cs ds : List Char} (hm : m < 100) (hn : n < 100)
    (h : twoDigits m ++ cs = twoDigits n ++ ds) : m = n ∧ cs = ds := by
  obtain ⟨htwo, hrest⟩ := List.append_inj h rfl
  refine ⟨?_, hrest⟩
  rw [← natOf_twoDigits hm, htwo, natOf_twoDigits hn]

theorem natOf_sixDigits (n : Nat) : natOf (sixDigits n) = n := by
  rw [sixDigits, JsonText.natOf_append, JsonText.natOf_zeros, JsonText.natOf_digits, zero_mul, zero_add]

theorem digits_length_le {n k : Nat} (hk : 1 ≤ k) (hn : n < 10 ^ k) : (digits n).length ≤ k := by
  induction k generalizing n with
  | zero => omega
  | succ k ih =>
    by_cases hsmall : n < 10
    · rw [JsonText.digits_of_lt hsmall, List.length_singleton]
      omega
    · have hdiv : n / 10 < 10 ^ k := by
        rw [pow_succ] at hn
        exact Nat.div_lt_of_lt_mul (by rwa [mul_comm])
      have hk : 1 ≤ k := by
        by_contra hk
        obtain rfl : k = 0 := by omega
        omega
      rw [JsonText.digits_of_ge hsmall, List.length_append, List.length_singleton]
      have := ih hk hdiv
      omega

theorem sixDigits_length {n : Nat} (hn : n < 1000000) : (sixDigits n).length = 6 := by
  have := digits_length_le (n := n) (k := 6) (by decide) (by simpa using hn)
  rw [sixDigits, List.length_append, List.length_replicate]
  omega

theorem isDigit_of_mem_sixDigits {n : Nat} {c : Char} (h : c ∈ sixDigits n) : isDigit c = true := by
  rcases List.mem_append.1 h with h | h
  · exact JsonText.isDigit_replicate h
  · exact JsonText.isDigit_of_mem_digits h

/-- stripping at the end takes off a run of the characters stripped -/
theorem rstripChars_append (z : Char) (cs : List Char) :
    ∃ k, cs = Py.rstripChars (· == z) cs ++ List.replicate k z := by
  have hdrop : ∀ ds : List Char, ∃ k, ds = List.replicate k z ++ ds.dropWhile (· == z) := by
    intro ds
    induction ds with
    | nil => exact ⟨0, rfl⟩
    | cons d ds ih =>
      by_cases hd : d = z
      · subst hd
        obtain ⟨k, hk⟩ := ih
        refine ⟨k + 1, ?_⟩
        rw [List.dropWhile_cons, beq_self_eq_true, if_pos rfl, List.replicate_succ, List.cons_append, ← hk]
      · exact ⟨0, by simp [hd]⟩
  obtain ⟨k, hk⟩ := hdrop cs.reverse
  refine ⟨k, ?_⟩
  rw [Py.rstripChars, ← List.reverse_replicate, ← List.reverse_append, ← hk, List.reverse_reverse]

/-- the fraction of a second determines it -/
theorem fraction_injective {m n : Nat} (hm : m < 1000000) (hn : n < 1000000) (hm0 : m ≠ 0) (hn0 : n ≠ 0)
    (h : Py.rstripChars (· == '.') (Py.rstripChars (· == '0') ('.' :: sixDigits m)) =
      Py.rstripChars (· == '.') (Py.rstripChars (· == '0') ('.' :: sixDigits n))) : m = n := by
  -- without its trailing zeros the text still ends with a digit, so no point is taken off
  have hpoint : ∀ k, k ≠ 0 → Py.rstripChars (· == '.') (Py.rstripChars (· == '0') ('.' :: sixDigits k)) =
      Py.rstripChars (· == '0') ('.' :: sixDigits k) := by
    intro k hk
    obtain ⟨j, hj⟩ := rstripChars_append '.' (Py.rstripChars (· == '0') ('.' :: sixDigits k))
    obtain ⟨i, hi⟩ := rstripChars_append '0' ('.' :: sixDigits k)
    generalize Py.rstripChars (· == '0') ('.' :: sixDigits k) = stripped at hi hj ⊢
    generalize Py.rstripChars (· == '.') stripped = short at hj ⊢
    rcases Nat.eq_zero_or_pos j with rfl | hj'
    · rw [List.replicate_zero, List.append_nil] at hj
      exact hj.symm
    · exfalso
      obtain ⟨j, rfl⟩ : ∃ j', j = j' + 1 := ⟨j - 1, by omega⟩
      rw [hj] at hi
      cases short with
      | nil =>
        cases j with
        | zero =>
          have hzeros : sixDigits k = List.replicate i '0' := by simpa using hi
          have hval := natOf_sixDigits k
          rw [hzeros, JsonText.natOf_zeros] at hval
          exact hk hval.symm
        | succ j =>
          have hmem : '.' ∈ sixDigits k := by
            have htail := (List.cons.inj hi).2
            rw [htail]
            simp
          exact absurd (isDigit_of_mem_sixDigits hmem) (by decide)
      | cons c cs =>
        have hmem : '.' ∈ sixDigits k := by
          have htail := (List.cons.inj hi).2
          rw [htail]
          simp [List.replicate_succ]
        exact absurd (isDigit_of_mem_sixDigits hmem) (by decide)
  rw [hpoint m hm0, hpoint n hn0] at h
  obtain ⟨i, hi⟩ := rstripChars_append '0' ('.' :: sixDigits m)
  obtain ⟨j, hj⟩ := rstripChars_append '0' ('.' :: sixDigits n)
  rw [h] at hi
  have hlen := congrArg List.length hi
  have hlen' := congrArg List.length hj
  rw [List.length_cons, sixDigits_length hm, List.length_append, List.length_replicate] at hlen
  rw [List.length_cons, sixDigits_length hn, List.length_append, List.length_replicate] at hlen'
  obtain rfl : i = j := by omega
  have hsix : sixDigits m = sixDigits n := (List.cons.inj (hi.trans hj.symm)).2
  rw [← natOf_sixDigits m, hsix, natOf_sixDigits]

theorem fraction_ne_nil {n : Nat} (hn : n ≠ 0) :
    Py.rstripChars (· == '.') (Py.rstripChars (· == '0') ('.' :: sixDigits n)) ≠ [] := by
  intro h
  obtain ⟨j, hj⟩ := rstripChars_append '.' (Py.rstripChars (· == '0') ('.' :: sixDigits n))
  obtain ⟨i, hi⟩ := rstripChars_append '0' ('.' :: sixDigits n)
  rw [h, List.nil_append] at hj
  rw [hj] at hi
  have hpoints : ∀ c ∈ sixDigits n, c = '0' := by
    intro c hc
    have hmem : c ∈ List.replicate j '.' ++ List.replicate i '0' := hi ▸ List.mem_cons_of_mem _ hc
    rcases List.mem_append.1 hmem with hc' | hc'
    · rw [List.eq_of_mem_replicate hc'] at hc
      exact absurd (isDigit_of_mem_sixDigits hc) (by decide)
    · exact List.eq_of_mem_replicate hc'
  have hval := natOf_sixDigits n
  rw [List.eq_replicate_of_mem hpoints, JsonText.natOf_zeros] at hval
  exact hn hval.symm

theorem Instant.small (t : Instant) : t.month < 100 ∧ t.day < 100 ∧ t.hour < 100 ∧ t.minute < 100 ∧ t.second < 100 := by
  have hmonth := t.month_ok
  have hday := t.day_ok
  have htime := t.time_ok
  have hdays : daysInMonth t.year t.month ≤ 31 := by
    unfold daysInMonth
    split_ifs <;> omega
  omega

/-- **The text of an instant is unambiguous.** -/
theorem formatOccurredAt_injective {t t' : Instant} (h : formatOccurredAt t = formatOccurredAt t') : t = t' := by
  obtain ⟨hmo, hda, hho, hmi, hse⟩ := t.small
  obtain ⟨hmo', hda', hho', hmi', hse'⟩ := t'.small
  simp only [formatOccurredAt, List.append_assoc, List.cons_append] at h
  obtain ⟨hyear, h⟩ := digits_append (by decide) (by decide) h
  obtain ⟨hmonth, h⟩ := twoDigits_append hmo hmo' (List.cons.inj h).2
  obtain ⟨hday, h⟩ := twoDigits_append hda hda' (List.cons.inj h).2
  obtain ⟨hhour, h⟩ := twoDigits_append hho hho' (List.cons.inj h).2
  obtain ⟨hminute, h⟩ := twoDigits_append hmi hmi' (List.cons.inj h).2
  obtain ⟨hsecond, h⟩ := twoDigits_append hse hse' (List.cons.inj h).2
  have hfraction := List.append_cancel_right h
  have hmicro : t.microsecond = t'.microsecond := by
    by_cases h0 : t.microsecond = 0 <;> by_cases h0' : t'.microsecond = 0
    · rw [h0, h0']
    · rw [if_neg (not_not.2 h0), if_pos h0'] at hfraction
      exact absurd hfraction.symm (fraction_ne_nil h0')
    · rw [if_pos h0, if_neg (not_not.2 h0')] at hfraction
      exact absurd hfraction (fraction_ne_nil h0)
    · rw [if_pos h0, if_pos h0'] at hfraction
      exact fraction_injective t.time_ok.2.2.2 t'.time_ok.2.2.2 h0 h0' hfraction
  apply Instant.fields_injective
  simp only [Instant.fields, hyear, hmonth, hday, hhour, hminute, hsecond, hmicro]

/-! ## Payloads -/

/-- a quoted text before whatever follows -/
theorem quote_append_inj {s s' : String} {rest rest' : List Char}
    (h : quote (Py.chars s) ++ rest = quote (Py.chars s') ++ rest') : s = s' ∧ rest = rest' := by
  have hread := JsonText.readValue_str 0 s rest
  rw [h, JsonText.readValue_str 0 s' rest'] at hread
  obtain ⟨hs, hrest⟩ := Prod.mk.inj (Option.some.inj hread)
  exact ⟨(Json.str.inj hs).symm, hrest.symm⟩

/-- a member with a text before whatever follows -/
theorem memberText_append_inj {key s s' : String} {rest rest' : List Char}
    (h : Json.memberText .compact (key, .str s) ++ rest = Json.memberText .compact (key, .str s') ++ rest') :
    s = s' ∧ rest = rest' := by
  simp only [Json.memberText, Json.dumps, List.append_assoc] at h
  exact quote_append_inj (List.append_cancel_left (List.append_cancel_left h))

/-- the members of a dict that is written before whatever follows -/
theorem dictText_append_inj {ms ms' : List (String × Json)} (hms : ∀ p ∈ ms, p.2.WellFormed)
    (hms' : ∀ p ∈ ms', p.2.WellFormed) {rest rest' : List Char} (h : dictText ms ++ rest = dictText ms' ++ rest') :
    (ms.map fun p => (p.1, p.2.canon)) = (ms'.map fun p => (p.1, p.2.canon)) ∧ rest = rest' := by
  have hread := JsonText.reads JsonText.blanks_compact (Json.costFields ms + Json.costFields ms')
  have htext : joinText [','] (ms.map (Json.memberText .compact)) ++ '}' :: rest =
      joinText [','] (ms'.map (Json.memberText .compact)) ++ '}' :: rest' := by
    simpa [dictText] using h
  -- a member begins with a quote, and an empty dict ends at once
  have hstarts : ∀ (ps : List (String × Json)) (cs : List Char), ps ≠ [] →
      ∃ ds, joinText [','] (ps.map (Json.memberText .compact)) ++ cs = '"' :: ds := by
    intro ps cs hps
    obtain ⟨p, ps, rfl⟩ := List.exists_cons_of_ne_nil hps
    rw [List.map_cons, JsonText.joinText_cons, List.append_assoc, Json.memberText, quote]
    exact ⟨_, rfl⟩
  by_cases hne : ms = []
  · by_cases hne' : ms' = []
    · subst hne hne'
      exact ⟨rfl, (List.cons.inj htext).2⟩
    · obtain ⟨ds, hds⟩ := hstarts ms' ('}' :: rest') hne'
      rw [hne, hds] at htext
      exact absurd (List.cons.inj htext).1 (by decide)
  · by_cases hne' : ms' = []
    · obtain ⟨ds, hds⟩ := hstarts ms ('}' :: rest) hne
      rw [hne', hds] at htext
      exact absurd (List.cons.inj htext).1 (by decide)
    · have hleft := hread.members ms rest hne hms (by omega)
      have hright := hread.members ms' rest' hne' hms' (by omega)
      change JsonText.readMembers _ (joinText [','] _ ++ _) = _ at hleft hright
      rw [htext, hright] at hleft
      obtain ⟨hmembers, hrest⟩ := Prod.mk.inj (Option.some.inj hleft)
      exact ⟨hmembers.symm, hrest.symm⟩

/-- the members in the order of their keys -/
theorem canonicalText_eq (f : AuditFields) (metadata : List (String × Json)) : canonicalText f metadata =
    '{' :: joinText [','] [
      Json.memberText .compact ("action", .str f.action), Json.memberText .compact ("actor_id", .str f.actorId),
      Json.memberText .compact ("actor_type", .str f.actorType),
      Json.memberText .compact ("audit_event_id", .str f.auditEventId.str),
      quote (Py.chars "metadata") ++ ':' :: dictText metadata, Json.memberText .compact ("object_id", .str f.objectId),
      Json.memberText .compact ("object_type", .str f.objectType),
      Json.memberText .compact ("occurred_at", .str (String.ofList (formatOccurredAt f.occurredAt))),
      Json.memberText .compact ("outcome", .str f.outcome),
      Json.memberText .compact ("previous_event_hash", .str f.previousEventHash),
      Json.memberText .compact ("reason_code", optStr f.reasonCode)] ++ ['}'] := rfl

theorem reasonText_inj {r r' : Option String} {cs cs' : List Char}
    (h : Json.memberText .compact ("reason_code", optStr r) ++ cs = Json.memberText .compact ("reason_code", optStr r') ++ cs') :
    r = r' := by
  have hdumps : (optStr r).dumps .compact ++ cs = (optStr r').dumps .compact ++ cs' := by
    simpa [Json.memberText] using h
  cases r with
  | none =>
    cases r' with
    | none => rfl
    | some s' => exact absurd (List.cons.inj hdumps).1 (by decide)
  | some s =>
    cases r' with
    | none => exact absurd (List.cons.inj hdumps).1 (by decide)
    | some s' => rw [(quote_append_inj hdumps).1]

/-- two events agree in all that the digest covers beside the metadata -/
structure AgreesBesideMetadata (f f' : AuditFields) : Prop where
  auditEventId : f.auditEventId = f'.auditEventId
  occurredAt : f.occurredAt = f'.occurredAt
  actorType : f.actorType = f'.actorType
  actorId : f.actorId = f'.actorId
  action : f.action = f'.action
  objectType : f.objectType = f'.objectType
  objectId : f.objectId = f'.objectId
  outcome : f.outcome = f'.outcome
  reasonCode : f.reasonCode = f'.reasonCode
  previousEventHash : f.previousEventHash = f'.previousEventHash

theorem AgreesBesideMetadata.eq {f f' : AuditFields} (h : AgreesBesideMetadata f f') (hmetadata : f.metadata = f'.metadata) :
    f = f' := by
  obtain ⟨_, _, _, _, _, _, _, _, _, _, _⟩ := f
  obtain ⟨_, _, _, _, _, _, _, _, _, _, _⟩ := f'
  obtain ⟨rfl, rfl, rfl, rfl, rfl, rfl, rfl, rfl, rfl, rfl⟩ := h
  obtain rfl := hmetadata
  rfl

/-- the text is read from its front: each member ends where the next begins -/
theorem canonicalText_inj {f f' : AuditFields} {ms ms' : List (String × Json)} (hms : ∀ p ∈ ms, p.2.WellFormed)
    (hms' : ∀ p ∈ ms', p.2.WellFormed) (h : canonicalText f ms = canonicalText f' ms') :
    AgreesBesideMetadata f f' ∧ (ms.map fun p => (p.1, p.2.canon)) = ms'.map fun p => (p.1, p.2.canon) := by
  simp only [canonicalText_eq, joinText, List.append_assoc, List.cons_append, List.nil_append, List.cons.injEq,
    true_and] at h
  obtain ⟨haction, h⟩ := memberText_append_inj h
  obtain ⟨hactorId, h⟩ := memberText_append_inj (List.cons.inj h).2
  obtain ⟨hactorType, h⟩ := memberText_append_inj (List.cons.inj h).2
  obtain ⟨hid, h⟩ := memberText_append_inj (List.cons.inj h).2
  obtain ⟨hmetadata, h⟩ := dictText_append_inj hms hms' (List.cons.inj (List.append_cancel_left (List.cons.inj h).2)).2
  obtain ⟨hobjectId, h⟩ := memberText_append_inj (List.cons.inj h).2
  obtain ⟨hobjectType, h⟩ := memberText_append_inj (List.cons.inj h).2
  obtain ⟨htime, h⟩ := memberText_append_inj (List.cons.inj h).2
  obtain ⟨houtcome, h⟩ := memberText_append_inj (List.cons.inj h).2
  obtain ⟨hprevious, h⟩ := memberText_append_inj (List.cons.inj h).2
  have hreason := reasonText_inj (List.cons.inj h).2
  exact ⟨⟨Workspace.Uuid.str_injective hid, formatOccurredAt_injective (String.ofList_injective htime), hactorType,
    hactorId, haction, hobjectType, hobjectId, houtcome, hreason, hprevious⟩, hmetadata⟩

/-! ## Metadata -/

theorem wellFormed_pairOf {v : Json} (hv : v.WellFormed) {p : Json × Json} (h : pairOf v = some p) : p.2.WellFormed := by
  unfold pairOf at h
  split at h
  · rename_i k w
    split_ifs at h
    obtain rfl := Option.some.inj h
    exact ((Json.wellFormedItems_iff _).1 hv) w (by simp)
  · split at h
    · obtain rfl := Option.some.inj h
      trivial
    · cases h
  · split_ifs at h <;> obtain rfl := Option.some.inj h <;> trivial
  · cases h

theorem wellFormed_setItem {d : List (Json × Json)} {p : Json × Json} (hd : ∀ q ∈ d, q.2.WellFormed)
    (hp : p.2.WellFormed) : ∀ q ∈ setItem d p, q.2.WellFormed := by
  intro q hq
  unfold setItem at hq
  split_ifs at hq
  · obtain ⟨r, hr, rfl⟩ := List.mem_map.1 hq
    split_ifs
    · exact hp
    · exact hd r hr
  · rcases List.mem_append.1 hq with hq | hq
    · exact hd q hq
    · rw [List.mem_singleton.1 hq]
      exact hp

theorem mem_sortItems {d sorted : List (Json × Json)} (h : sortItems d = some sorted) {p : Json × Json} (hp : p ∈ sorted) :
    p ∈ d := by
  unfold sortItems at h
  split_ifs at h <;> obtain rfl := Option.some.inj h
  · exact hp
  · exact (List.mem_insertionSort _).1 hp
  · exact (List.mem_insertionSort _).1 hp

theorem wellFormed_metadataMembers {v : Json} (hv : v.WellFormed) {ms : List (String × Json)}
    (h : metadataMembers v = some ms) : ∀ p ∈ ms, p.2.WellFormed := by
  unfold metadataMembers at h
  split at h
  · obtain rfl := Option.some.inj h
    intro p hp
    exact (Json.wellFormedFields_iff _).1 hv.2 p (KeyedList.mem_sorted.1 hp)
  · rename_i items
    simp only [Option.bind_eq_bind, Option.bind_eq_some_iff, Option.pure_def, Option.some.injEq] at h
    obtain ⟨pairs, hpairs, sorted, hsorted, rfl⟩ := h
    have hitems : ∀ p ∈ pairs, p.2.WellFormed := by
      intro p hp
      obtain ⟨item, hitem, hpair⟩ := Results.exists_of_forall₂ (Results.optionMapM_eq_some.1 hpairs) hp
      exact wellFormed_pairOf ((Json.wellFormedItems_iff _).1 hv item hitem) hpair
    have hfold : ∀ (ps d : List (Json × Json)), (∀ p ∈ ps, p.2.WellFormed) → (∀ q ∈ d, q.2.WellFormed) →
        ∀ q ∈ ps.foldl setItem d, q.2.WellFormed := by
      intro ps
      induction ps with
      | nil => exact fun d _ hd => hd
      | cons p ps ih =>
        intro d hps hd
        exact ih _ (fun q hq => hps q (List.mem_cons_of_mem _ hq)) (wellFormed_setItem hd (hps p List.mem_cons_self))
    intro p hp
    obtain ⟨q, hq, rfl⟩ := List.mem_map.1 hp
    exact hfold pairs [] hitems (by simp) q (mem_sortItems hsorted hq)
  · split_ifs at h
    obtain rfl := Option.some.inj h
    simp

/-- two dicts with the same members are one -/
theorem metadata_eq_of_dicts {m m' : Metadata} (hm : m.isDict = true) (hm' : m'.isDict = true)
    {ms ms' : List (String × Json)} (h : metadataMembers m.value = some ms) (h' : metadataMembers m'.value = some ms')
    (hmembers : (ms.map fun p => (p.1, p.2.canon)) = ms'.map fun p => (p.1, p.2.canon)) : m = m' := by
  have hvalue : ∀ (n : Metadata) {ns}, n.isDict = true → metadataMembers n.value = some ns →
      n.value = .obj (ns.map fun p => (p.1, p.2.canon)) := by
    intro n ns hn hns
    have hcanonical := n.canonical
    cases hv : n.value with
    | obj fs =>
      rw [hv] at hns hcanonical
      obtain rfl := Option.some.inj hns
      rw [← Json.canon_obj]
      exact hcanonical.symm
    | _ => simp [Metadata.isDict, hv, Json.asObj] at hn
  apply Metadata.ext
  rw [hvalue m hm h, hvalue m' hm' h', hmembers]

/-- **The canonical bytes of an event** determine every field that the digest covers but the metadata, and the metadata
where it is a dict. -/
theorem canonicalJsonBytes_injective {f f' : AuditFields} {bytes : List Nat} (h : canonicalJsonBytes f = some bytes)
    (h' : canonicalJsonBytes f' = some bytes) : AgreesBesideMetadata f f' ∧
      (f.metadata.isDict = true → f'.metadata.isDict = true → f.metadata = f'.metadata) := by
  obtain ⟨ms, hms, hbytes⟩ := Option.map_eq_some_iff.1 h
  obtain ⟨ms', hms', hbytes'⟩ := Option.map_eq_some_iff.1 h'
  have htext := Sha.utf8_injective (hbytes.trans hbytes'.symm)
  obtain ⟨hagrees, hmembers⟩ := canonicalText_inj (wellFormed_metadataMembers f.metadata.wellFormed hms)
    (wellFormed_metadataMembers f'.metadata.wellFormed hms') htext
  exact ⟨hagrees, fun hd hd' => metadata_eq_of_dicts hd hd' hms hms' hmembers⟩

end AtoService.Audit
