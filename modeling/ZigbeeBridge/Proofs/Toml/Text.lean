import ZigbeeBridge.Proofs.Data.Result
import ZigbeeBridge.Proofs.Text.Hex
import ZigbeeBridge.Proofs.Text.Span
import ZigbeeBridge.Toml.Lexis
import ZigbeeBridge.Toml.Printer

/-!
Strings and keys that are written in a document read back as they were, in whichever form they are
written: with escapes or as they stand, on one line or on several.
-/
namespace ZigbeeBridge.Toml

section Characters

theorem toNat_of_needsEscape {c : Char} (h : needsEscape c = true) : c.toNat < 128 := by
  unfold needsEscape at h
  simp only [Bool.or_eq_true, Bool.and_eq_true, decide_eq_true_eq, beq_iff_eq] at h
  obtain ⟨⟨hlow, -⟩, -⟩ | rfl := h
  · have hbound : c.toNat < 32 := hlow
    omega
  · decide

/-- What needs no escape is no control character, but for the line break. -/
theorem isControl_of_plain {c : Char} (hplain : needsEscape c = false) (hbreak : c ≠ '\n') :
    isControl c = false := by
  unfold needsEscape at hplain
  unfold isControl
  by_cases htab : c = '\t'
  · subst htab
    decide
  · simpa [htab, hbreak] using hplain

/-- How a character may be written between double quotes: as it is, as an escape, or, on several
lines, as a line break. -/
inductive Form (lines : Bool) (c : Char) : List Char → Prop where
  | plain (hcontrol : isControl c = false) (hquote : c ≠ '"') (hslash : c ≠ '\\') :
    Form lines c [c]
  | escape (code : List Char) (hcode : ∀ rest, escape (code ++ rest) = .ok (c, rest))
    (hjoin : ∀ rest, continuation? (code ++ rest) = none) : Form lines c ('\\' :: code)
  | lineBreak (hlines : lines = true) (hbreak : c = '\n') : Form lines c ['\n']

theorem form_unicode (lines : Bool) {c : Char} (hc : needsEscape c = true) :
    Form lines c ('\\' :: 'u' :: Text.lastDigits Text.upperHexDigit 4 c.toNat) := by
  have hbound := toNat_of_needsEscape hc
  have hdigits : Text.lastDigits Text.upperHexDigit 4 c.toNat =
      ['0', '0', Text.upperHexDigit (c.toNat / 16), Text.upperHexDigit (c.toNat % 16)] := by
    have hhigh : c.toNat / 16 % 16 = c.toNat / 16 := by omega
    have hnone : c.toNat / 16 / 16 = 0 := by omega
    simp only [Text.lastDigits, hhigh, hnone]
    rfl
  have hread : ∀ rest, hexDigits? 4 0 (['0', '0', Text.upperHexDigit (c.toNat / 16),
      Text.upperHexDigit (c.toNat % 16)] ++ rest) = some (c.toNat, rest) := by
    intro rest
    have hzero : Text.hexValue? '0' = some 0 := by decide
    have hhigh := Text.hexValue_upperHexDigit (c.toNat / 16) (by omega)
    have hlow := Text.hexValue_upperHexDigit (c.toNat % 16) (by omega)
    have hsum : 16 * (c.toNat / 16) + c.toNat % 16 = c.toNat := Nat.div_add_mod _ _
    simp [hexDigits?, hzero, hhigh, hlow, hsum]
  rw [hdigits]
  apply Form.escape
  · intro rest
    have hvalid : c.toNat.isValidChar := Or.inl (by omega)
    have hscalar : scalarAt 4 (['0', '0', Text.upperHexDigit (c.toNat / 16),
        Text.upperHexDigit (c.toNat % 16)] ++ rest) = .ok (c, rest) := by
      unfold scalarAt
      rw [hread]
      dsimp only
      rw [if_pos hvalid, Char.ofNat_toNat]
    exact hscalar
  · intro rest
    rfl

/-- A character that is no quote is written in one of the forms, and the run of quotes ends. -/
theorem escaped_cons (lines : Bool) (quotes run : Nat) {c : Char} (hc : c ≠ '"')
    (cs : List Char) : ∃ form, Form lines c form ∧
      escaped lines quotes run (c :: cs) = form ++ escaped lines quotes 0 cs := by
  by_cases hb : c = '\x08'
  · subst hb
    exact ⟨_, .escape ['b'] (fun _ => rfl) fun _ => rfl, by rw [escaped]⟩
  by_cases ht : c = '\t'
  · subst ht
    exact ⟨_, .escape ['t'] (fun _ => rfl) fun _ => rfl, by rw [escaped]⟩
  by_cases hn : c = '\n'
  · subst hn
    cases lines with
    | true => exact ⟨_, .lineBreak rfl rfl, by rw [escaped, if_pos rfl]⟩
    | false =>
      refine ⟨_, .escape ['n'] (fun _ => rfl) fun _ => rfl, ?_⟩
      rw [escaped, if_neg Bool.false_ne_true]
  by_cases hf : c = '\x0c'
  · subst hf
    exact ⟨_, .escape ['f'] (fun _ => rfl) fun _ => rfl, by rw [escaped]⟩
  by_cases hr : c = '\r'
  · subst hr
    exact ⟨_, .escape ['r'] (fun _ => rfl) fun _ => rfl, by rw [escaped]⟩
  by_cases hslash : c = '\\'
  · subst hslash
    exact ⟨_, .escape ['\\'] (fun _ => rfl) fun _ => rfl, by rw [escaped]⟩
  cases hescape : needsEscape c with
  | true =>
    refine ⟨_, form_unicode lines hescape, ?_⟩
    rw [escaped, if_pos hescape]
    all_goals assumption
  | false =>
    refine ⟨_, .plain (isControl_of_plain hescape hn) hc hslash, ?_⟩
    rw [escaped, if_neg (by simp [hescape])]
    all_goals assumption

end Characters

section OneLine

/-- A character is read back from any of its forms on one line. -/
theorem basicBody_form {c : Char} {form : List Char} (hform : Form false c form) (fuel : Nat)
    (cs : List Char) : basicBody (fuel + 1) (form ++ cs) =
      (basicBody fuel cs >>= fun read => .ok (c :: read.1, read.2)) := by
  cases hform with
  | plain hcontrol hquote hslash =>
    rw [List.singleton_append, basicBody, if_neg (by simp [hcontrol])]
    · exact hquote
    · exact hslash
  | escape code hcode hjoin =>
    rw [List.cons_append, basicBody, hcode]
    rfl
  | lineBreak hlines => cases hlines

theorem escaped_quote (lines : Bool) (run : Nat) (cs : List Char) :
    escaped lines 0 run ('"' :: cs) = ['\\', '"'] ++ escaped lines 0 0 cs := by
  rw [escaped, if_neg (Nat.not_lt_zero run)]
  rfl

theorem form_quote (lines : Bool) : Form lines '"' ['\\', '"'] :=
  .escape ['"'] (fun _ => rfl) fun _ => rfl

/-- With every quote escaped each character has a form of its own. -/
theorem escaped_cons_one (lines : Bool) (run : Nat) (c : Char) (cs : List Char) :
    ∃ form, Form lines c form ∧
      escaped lines 0 run (c :: cs) = form ++ escaped lines 0 0 cs := by
  by_cases hc : c = '"'
  · subst hc
    exact ⟨_, form_quote lines, escaped_quote lines run cs⟩
  · exact escaped_cons lines 0 run hc cs

theorem length_form {lines : Bool} {c : Char} {form : List Char} (hform : Form lines c form) :
    1 ≤ form.length := by
  cases hform with
  | plain => simp
  | escape => simp
  | lineBreak => simp

theorem length_escaped (cs : List Char) (run : Nat) :
    cs.length ≤ (escaped false 0 run cs).length := by
  induction cs generalizing run with
  | nil => exact Nat.zero_le _
  | cons c cs ih =>
    obtain ⟨form, hform, hescaped⟩ := escaped_cons_one false run c cs
    have hlength := length_form hform
    have hrest := ih 0
    rw [hescaped, List.length_append, List.length_cons]
    omega

theorem basicBody_escaped (cs rest : List Char) (run fuel : Nat) (hfuel : cs.length < fuel) :
    basicBody fuel (escaped false 0 run cs ++ '"' :: rest) = .ok (cs, rest) := by
  induction cs generalizing run fuel with
  | nil =>
    obtain ⟨fuel, rfl⟩ := Nat.exists_eq_succ_of_ne_zero (Nat.ne_zero_of_lt hfuel)
    rfl
  | cons c cs ih =>
    obtain ⟨fuel, rfl⟩ := Nat.exists_eq_succ_of_ne_zero (Nat.ne_zero_of_lt hfuel)
    obtain ⟨form, hform, hescaped⟩ := escaped_cons_one false run c cs
    rw [hescaped, List.append_assoc, basicBody_form hform, ih 0 fuel (Nat.lt_of_succ_lt_succ hfuel)]
    rfl

/-- Between apostrophes everything is as it stands. -/
theorem literalBody_literal (cs rest : List Char)
    (hinside : ∀ c ∈ cs, c ≠ '\'' ∧ isControl c = false) :
    literalBody (cs ++ '\'' :: rest) = .ok (cs, rest) := by
  have hpass : ∀ c ∈ cs, (c != '\'' && !isControl c) = true := by
    intro c hc
    obtain ⟨hquote, hcontrol⟩ := hinside c hc
    simp [hquote, hcontrol]
  have hstop : ∀ c ∈ ('\'' :: rest).head?, (c != '\'' && !isControl c) = false := by
    rintro _ ⟨⟩
    rfl
  unfold literalBody
  dsimp only
  rw [Text.dropWhile_stop hpass hstop, Text.takeWhile_stop hpass hstop]
  rfl

end OneLine

section SeveralLines

/-- How many quotes a text begins with. -/
def quotesAhead (quote : Char) (cs : List Char) : Nat := (cs.takeWhile (· = quote)).length

theorem quotesAhead_of_ne {quote c : Char} (hc : c ≠ quote) (cs : List Char) :
    quotesAhead quote (c :: cs) = 0 := by
  unfold quotesAhead
  rw [List.takeWhile_cons_of_neg (by simpa using hc), List.length_nil]

theorem quotesAhead_cons (quote : Char) (cs : List Char) :
    quotesAhead quote (quote :: cs) = quotesAhead quote cs + 1 := by
  unfold quotesAhead
  rw [List.takeWhile_cons_of_pos (by simp), List.length_cons]

theorem quotesAhead_of_head {quote : Char} {cs : List Char} (hcs : cs.head? ≠ some quote) :
    quotesAhead quote cs = 0 := by
  cases cs with
  | nil => rfl
  | cons c cs =>
    apply quotesAhead_of_ne
    rintro rfl
    exact hcs rfl

theorem quotesAhead_replicate {quote : Char} (n : Nat) {cs : List Char}
    (hcs : cs.head? ≠ some quote) : quotesAhead quote (List.replicate n quote ++ cs) = n := by
  induction n with
  | zero => exact quotesAhead_of_head hcs
  | succ n ih => rw [List.replicate_succ, List.cons_append, quotesAhead_cons, ih]

theorem closing?_eq_none {quote : Char} {cs : List Char} (hcs : quotesAhead quote cs < 3) :
    closing? quote cs = none := by
  unfold closing?
  exact if_pos hcs

/-- Up to two quotes in front of the three that close belong to the text. -/
theorem closing?_replicate {quote : Char} {k : Nat} (hk : k ≤ 2) {rest : List Char}
    (hrest : rest.head? ≠ some quote) :
    closing? quote (List.replicate k quote ++ (List.replicate 3 quote ++ rest)) =
      some (List.replicate k quote, rest) := by
  have hall : List.replicate k quote ++ (List.replicate 3 quote ++ rest) =
      List.replicate (k + 3) quote ++ rest := by
    rw [← List.append_assoc, List.replicate_append_replicate]
  have hahead := quotesAhead_replicate (k + 3) hrest
  have hmin : min (k + 3) 5 = k + 3 := by omega
  have hdrop : (List.replicate (k + 3) quote ++ rest).drop (k + 3) = rest := by
    rw [List.drop_append_of_le_length (by simp)]
    simp
  unfold quotesAhead at hahead
  unfold closing?
  dsimp only
  rw [hall, hahead, if_neg (by omega), hmin, hdrop, Nat.add_sub_cancel]

/-- A text and how it is written on several lines, behind so many quotes in a row. No more than two
of them may stand as they are. -/
inductive Spelled (quote : Char) (form : Char → List Char → Prop) :
    Nat → List Char → List Char → Prop where
  | nil {run : Nat} (hrun : run ≤ 2) : Spelled quote form run [] []
  | quote {run : Nat} {cs written : List Char} (hrun : run < 2)
    (hrest : Spelled quote form (run + 1) cs written) :
    Spelled quote form run (quote :: cs) (quote :: written)
  | char {run : Nat} {c : Char} {writtenChar cs written : List Char} (hrun : run ≤ 2)
    (hc : form c writtenChar) (hrest : Spelled quote form 0 cs written) :
    Spelled quote form run (c :: cs) (writtenChar ++ written)

/-- A reader of strings on several lines, which takes each character in its forms. -/
structure LinesReader (quote : Char) (form : Char → List Char → Prop)
    (reader : Nat → Reader (List Char)) : Prop where
  closes : ∀ fuel cs quotes rest, closing? quote cs = some (quotes, rest) →
    reader (fuel + 1) cs = .ok (quotes, rest)
  takesQuote : ∀ fuel cs, closing? quote (quote :: cs) = none → reader (fuel + 1) (quote :: cs) =
    (reader fuel cs >>= fun read => .ok (quote :: read.1, read.2))
  takesChar : ∀ c writtenChar fuel cs, form c writtenChar → reader (fuel + 1) (writtenChar ++ cs) =
    (reader fuel cs >>= fun read => .ok (c :: read.1, read.2))
  noQuote : ∀ c writtenChar cs, form c writtenChar → quotesAhead quote (writtenChar ++ cs) = 0

variable {quote : Char} {form : Char → List Char → Prop} {reader : Nat → Reader (List Char)}
  (hreader : LinesReader quote form reader) {run : Nat} {cs written rest : List Char}
  (hrest : rest.head? ≠ some quote)

include hreader

/-- Either nothing but quotes is left, or there are too few in a row to close the string. -/
theorem Spelled.ahead (hspelled : Spelled quote form run cs written) (rest : List Char) :
    (∃ k, cs = List.replicate k quote ∧ written = List.replicate k quote ∧ k + run ≤ 2) ∨
      quotesAhead quote (written ++ (List.replicate 3 quote ++ rest)) + run ≤ 2 := by
  induction hspelled with
  | nil hrun => exact Or.inl ⟨0, rfl, rfl, by omega⟩
  | quote hrun _ ih =>
    rcases ih with ⟨k, hcs, hwritten, hk⟩ | hfew
    · refine Or.inl ⟨k + 1, ?_, ?_, by omega⟩
      · rw [hcs, List.replicate_succ]
      · rw [hwritten, List.replicate_succ]
    · right
      rw [List.cons_append, quotesAhead_cons]
      omega
  | char hrun hc _ _ =>
    right
    rw [List.append_assoc, hreader.noQuote _ _ _ hc]
    omega

include hrest

/-- What is written on several lines is read back, up to the quotes that close it. -/
theorem Spelled.read (hspelled : Spelled quote form run cs written) (fuel : Nat)
    (hfuel : cs.length < fuel)
    (hopen : run = 0 ∨ closing? quote (written ++ (List.replicate 3 quote ++ rest)) = none) :
    reader fuel (written ++ (List.replicate 3 quote ++ rest)) = .ok (cs, rest) := by
  induction hspelled generalizing fuel with
  | nil hrun =>
    obtain ⟨fuel, rfl⟩ := Nat.exists_eq_succ_of_ne_zero (Nat.ne_zero_of_lt hfuel)
    have hclosing := closing?_replicate (Nat.zero_le 2) hrest
    exact hreader.closes _ _ _ _ hclosing
  | @quote run cs written hrun hlater ih =>
    obtain ⟨fuel, rfl⟩ := Nat.exists_eq_succ_of_ne_zero (Nat.ne_zero_of_lt hfuel)
    rcases (Spelled.quote hrun hlater).ahead hreader rest with ⟨k, hcs, hwritten, hk⟩ | hfew
    · have hk : k ≤ 2 := by omega
      have hclosing := closing?_replicate hk hrest
      rw [hcs, hwritten]
      exact hreader.closes _ _ _ _ hclosing
    · have hnone : closing? quote
          (quote :: (written ++ (List.replicate 3 quote ++ rest))) = none :=
        closing?_eq_none (by rw [List.cons_append] at hfew; omega)
      have hnext : closing? quote (written ++ (List.replicate 3 quote ++ rest)) = none := by
        apply closing?_eq_none
        rw [List.cons_append, quotesAhead_cons] at hfew
        omega
      rw [List.cons_append, hreader.takesQuote fuel _ hnone,
        ih fuel (Nat.lt_of_succ_lt_succ hfuel) (Or.inr hnext)]
      rfl
  | char hrun hc _ ih =>
    obtain ⟨fuel, rfl⟩ := Nat.exists_eq_succ_of_ne_zero (Nat.ne_zero_of_lt hfuel)
    rw [List.append_assoc, hreader.takesChar _ _ _ _ hc,
      ih fuel (Nat.lt_of_succ_lt_succ hfuel) (Or.inl rfl)]
    rfl

end SeveralLines

section Readers

theorem lineBreak?_of_not_isControl {c : Char} (hc : isControl c = false) (cs : List Char) :
    lineBreak? (c :: cs) = none := by
  unfold lineBreak?
  split
  · rename_i heq
    cases heq
    exact absurd hc (by decide)
  · rename_i heq
    cases heq
    exact absurd hc (by decide)
  · rfl

theorem quotesAhead_form {c : Char} {form : List Char} (hform : Form true c form)
    (cs : List Char) : quotesAhead '"' (form ++ cs) = 0 := by
  cases hform with
  | plain hcontrol hquote hslash => exact quotesAhead_of_ne hquote cs
  | escape code => exact quotesAhead_of_ne (by decide) _
  | lineBreak => exact quotesAhead_of_ne (by decide) _

theorem linesReader_basic : LinesReader '"' (Form true) linesBody where
  closes := by
    intro fuel cs quotes rest hclosing
    unfold linesBody
    rw [hclosing]
  takesQuote := by
    intro fuel cs hnone
    rw [linesBody]
    · rw [hnone, lineBreak?_of_not_isControl (by decide)]
      rfl
    · decide
  takesChar := by
    intro c form fuel cs hform
    have hnone : closing? '"' (form ++ cs) = none :=
      closing?_eq_none (by rw [quotesAhead_form hform]; omega)
    cases hform with
    | plain hcontrol hquote hslash =>
      rw [List.singleton_append] at hnone ⊢
      rw [linesBody]
      · rw [hnone, lineBreak?_of_not_isControl hcontrol, if_neg (by simp [hcontrol])]
      · exact hslash
    | escape code hcode hjoin =>
      rw [List.cons_append] at hnone ⊢
      rw [linesBody, hnone, lineBreak?_of_not_isControl (by decide), hjoin, hcode]
      rfl
    | lineBreak hlines hbreak =>
      subst hbreak
      rw [List.singleton_append] at hnone ⊢
      rw [linesBody]
      · rw [hnone]
        rfl
      · decide
  noQuote := fun c form cs hform => quotesAhead_form hform cs

/-- How a character stands between apostrophes on several lines. -/
def AsItIs (c : Char) (written : List Char) : Prop :=
  written = [c] ∧ c ≠ '\'' ∧ (isControl c = false ∨ c = '\n')

theorem linesReader_literal : LinesReader '\'' AsItIs literalLinesBody where
  closes := by
    intro fuel cs quotes rest hclosing
    unfold literalLinesBody
    rw [hclosing]
  takesQuote := by
    intro fuel cs hnone
    rw [literalLinesBody, hnone, lineBreak?_of_not_isControl (by decide)]
    rfl
  takesChar := by
    rintro c written fuel cs ⟨rfl, hquote, hplain⟩
    have hnone : closing? '\'' ([c] ++ cs) = none :=
      closing?_eq_none (by rw [List.singleton_append, quotesAhead_of_ne hquote]; omega)
    rw [List.singleton_append] at hnone ⊢
    rw [literalLinesBody, hnone]
    rcases hplain with hcontrol | rfl
    · rw [lineBreak?_of_not_isControl hcontrol]
      dsimp only
      rw [if_neg (by simp [hcontrol])]
    · rfl
  noQuote := by
    rintro c written cs ⟨rfl, hquote, -⟩
    exact quotesAhead_of_ne hquote cs

theorem spelled_escaped (cs : List Char) (run : Nat) (hrun : run ≤ 2) :
    Spelled '"' (Form true) run cs (escaped true 2 run cs) := by
  induction cs generalizing run with
  | nil => exact .nil hrun
  | cons c cs ih =>
    by_cases hc : c = '"'
    · subst hc
      rw [escaped]
      by_cases hfew : run < 2
      · rw [if_pos hfew]
        exact .quote hfew (ih (run + 1) hfew)
      · rw [if_neg hfew]
        exact .char hrun (form_quote true) (ih 0 (Nat.zero_le 2))
    · obtain ⟨form, hform, hescaped⟩ := escaped_cons true 2 run hc cs
      rw [hescaped]
      exact .char hrun hform (ih 0 (Nat.zero_le 2))

theorem le_longestRun (quote : Char) (cs : List Char) (run : Nat) :
    run ≤ longestRun quote run cs := by
  induction cs generalizing run with
  | nil => exact Nat.le_refl run
  | cons c cs ih =>
    rw [longestRun]
    split
    · exact Nat.le_trans (Nat.le_succ run) (ih (run + 1))
    · exact Nat.le_max_left _ _

theorem ne_of_longestRun {quote : Char} {cs : List Char} (hnone : longestRun quote 0 cs = 0) :
    ∀ c ∈ cs, c ≠ quote := by
  induction cs with
  | nil => exact fun c hc => absurd hc List.not_mem_nil
  | cons c cs ih =>
    rw [longestRun] at hnone
    by_cases hc : c = quote
    · have hone := le_longestRun quote cs (0 + 1)
      rw [if_pos hc] at hnone
      omega
    · rw [if_neg hc] at hnone
      exact List.forall_mem_cons.mpr ⟨hc, ih (by omega)⟩

theorem spelled_literal (cs : List Char) (run : Nat) (hrun : longestRun '\'' run cs ≤ 2)
    (hplain : ∀ c ∈ cs, needsEscape c = false) : Spelled '\'' AsItIs run cs cs := by
  induction cs generalizing run with
  | nil => exact .nil hrun
  | cons c cs ih =>
    have hrest : ∀ d ∈ cs, needsEscape d = false := fun d hd =>
      hplain d (List.mem_cons_of_mem c hd)
    have hlow := Nat.le_trans (le_longestRun '\'' (c :: cs) run) hrun
    rw [longestRun] at hrun
    by_cases hc : c = '\''
    · rw [if_pos hc] at hrun
      have hmore := le_longestRun '\'' cs (run + 1)
      subst hc
      exact .quote (by omega) (ih (run + 1) hrun hrest)
    · rw [if_neg hc] at hrun
      have hform : AsItIs c [c] := by
        refine ⟨rfl, hc, ?_⟩
        by_cases hbreak : c = '\n'
        · exact Or.inr hbreak
        · exact Or.inl (isControl_of_plain (hplain c List.mem_cons_self) hbreak)
      exact .char hlow hform (ih 0 (by omega) hrest)

end Readers

section Strings

variable (cs : List Char) {rest : List Char}

/-- A text that does not begin with three quotes is read as a string on one line. -/
theorem string_of_basicBody {body : List Char} (hbody : quotesAhead '"' body < 2)
    (hread : basicBody (body.length + 1) body = .ok (cs, rest)) :
    string ('"' :: body) = .ok (String.ofList cs, rest) := by
  have hone : string ('"' :: body) = (basicBody (body.length + 1) body >>= fun read =>
      .ok (String.ofList read.1, read.2)) := by
    unfold string
    split
    · rename_i later heq
      cases heq
      rw [quotesAhead_cons, quotesAhead_cons] at hbody
      omega
    · rename_i heq
      cases heq
    · rename_i later hthree heq
      cases heq
      rfl
    · rename_i heq
      cases heq
    · rename_i hbasic _
      exact absurd rfl (hbasic body)
  rw [hone, hread]
  rfl

theorem string_basic (hrest : rest.head? ≠ some '"') :
    string (basic cs ++ rest) = .ok (String.ofList cs, rest) := by
  have hshape : basic cs ++ rest = '"' :: (escaped false 0 0 cs ++ '"' :: rest) := by
    unfold basic
    simp
  have hfew : quotesAhead '"' (escaped false 0 0 cs ++ '"' :: rest) < 2 := by
    cases cs with
    | nil =>
      show quotesAhead '"' ('"' :: rest) < 2
      rw [quotesAhead_cons, quotesAhead_of_head hrest]
      omega
    | cons c cs =>
      obtain ⟨form, hform, hescaped⟩ := escaped_cons_one false 0 c cs
      rw [hescaped]
      cases hform with
      | plain hcontrol hquote hslash =>
        rw [List.append_assoc, List.singleton_append, quotesAhead_of_ne hquote]
        omega
      | escape code hcode hjoin =>
        rw [List.append_assoc, List.cons_append, quotesAhead_of_ne (by decide)]
        omega
      | lineBreak hlines => cases hlines
  rw [hshape]
  apply string_of_basicBody cs hfew
  apply basicBody_escaped
  have hlength := length_escaped cs 0
  rw [List.length_append]
  omega

/-- Between apostrophes there is something, or else the form would be another. -/
theorem string_literal (hcs : cs ≠ [])
    (hinside : ∀ c ∈ cs, c ≠ '\'' ∧ isControl c = false) :
    string (literal cs ++ rest) = .ok (String.ofList cs, rest) := by
  have hshape : literal cs ++ rest = '\'' :: (cs ++ '\'' :: rest) := by
    unfold literal
    simp
  have hread := literalBody_literal cs rest hinside
  obtain ⟨c, later, rfl⟩ := List.exists_cons_of_ne_nil hcs
  have hquote := (hinside c List.mem_cons_self).1
  have hone : string ('\'' :: (c :: later ++ '\'' :: rest)) =
      (literalBody (c :: later ++ '\'' :: rest) >>= fun read =>
        .ok (String.ofList read.1, read.2)) := by
    unfold string
    split
    · rename_i heq
      cases heq
    · rename_i heq
      have hsame := (List.cons.inj (List.cons.inj heq).2).1
      exact absurd hsame hquote
    · rename_i heq
      cases heq
    · rename_i hthree heq
      cases heq
      rfl
    · rename_i hliteral
      exact absurd rfl (hliteral _)
  rw [hshape, hone, hread]
  rfl

/-- A break of the line right behind the quotes is put there where the text has breaks. -/
theorem dropFirstBreak_onLines {body : List Char}
    (hbody : '\n' ∉ cs → lineBreak? body = none) :
    dropFirstBreak ((if cs.contains '\n' then ['\n'] else []) ++ body) = body := by
  unfold dropFirstBreak
  by_cases hbreaks : cs.contains '\n' = true
  · rw [if_pos hbreaks]
    rfl
  · rw [if_neg hbreaks, List.nil_append, hbody (by simpa using hbreaks)]
    rfl

theorem length_onLines {quote : Char} {form : Char → List Char → Prop} {run : Nat}
    {written : List Char} (hspelled : Spelled quote form run cs written)
    (hform : ∀ c w, form c w → 1 ≤ w.length) : cs.length ≤ written.length := by
  induction hspelled with
  | nil => exact Nat.le_refl 0
  | quote hrun _ ih =>
    rw [List.length_cons, List.length_cons]
    omega
  | char hrun hc _ ih =>
    have hlength := hform _ _ hc
    rw [List.length_cons, List.length_append]
    omega

theorem lineBreak?_spelled {cs written : List Char}
    (hspelled : Spelled '"' (Form true) 0 cs written) (hnone : '\n' ∉ cs) (rest : List Char) :
    lineBreak? (written ++ (List.replicate 3 '"' ++ rest)) = none := by
  cases hspelled with
  | nil => rfl
  | quote => rfl
  | char hrun hc hlater =>
    cases hc with
    | plain hcontrol hquote hslash => exact lineBreak?_of_not_isControl hcontrol _
    | escape code hcode hjoin => rfl
    | lineBreak hlines hbreak =>
      subst hbreak
      exact absurd List.mem_cons_self hnone

theorem string_basicLines (hrest : rest.head? ≠ some '"') :
    string (basicLines cs ++ rest) = .ok (String.ofList cs, rest) := by
  have hspelled := spelled_escaped cs 0 (Nat.zero_le 2)
  have hlength := length_onLines cs hspelled fun c w hw => length_form hw
  have hshape : basicLines cs ++ rest = '"' :: '"' :: '"' ::
      ((if cs.contains '\n' then ['\n'] else []) ++
        (escaped true 2 0 cs ++ (List.replicate 3 '"' ++ rest))) := by
    unfold basicLines onLines
    simp [List.replicate]
  have hbody : '\n' ∉ cs →
      lineBreak? (escaped true 2 0 cs ++ (List.replicate 3 '"' ++ rest)) = none :=
    fun hnone => lineBreak?_spelled hspelled hnone rest
  have hdrop := dropFirstBreak_onLines cs hbody
  have hread := hspelled.read linesReader_basic hrest
    (((if cs.contains '\n' then ['\n'] else []) ++
      (escaped true 2 0 cs ++ (List.replicate 3 '"' ++ rest))).length + 1)
    (by simp only [List.length_append]; omega) (Or.inl rfl)
  rw [hshape]
  show (linesBody _ (dropFirstBreak _) >>= fun read => .ok (String.ofList read.1, read.2)) = _
  rw [hdrop, hread]
  rfl

theorem string_literalLines (hfew : longestRun '\'' 0 cs ≤ 2)
    (hplain : ∀ c ∈ cs, needsEscape c = false) (hrest : rest.head? ≠ some '\'') :
    string (onLines '\'' cs cs ++ rest) = .ok (String.ofList cs, rest) := by
  have hspelled := spelled_literal cs 0 hfew hplain
  have hshape : onLines '\'' cs cs ++ rest = '\'' :: '\'' :: '\'' ::
      ((if cs.contains '\n' then ['\n'] else []) ++
        (cs ++ (List.replicate 3 '\'' ++ rest))) := by
    unfold onLines
    simp [List.replicate]
  have hbody : '\n' ∉ cs → lineBreak? (cs ++ (List.replicate 3 '\'' ++ rest)) = none := by
    intro hnone
    cases cs with
    | nil => rfl
    | cons c cs =>
      have hbreak : c ≠ '\n' := by
        rintro rfl
        exact hnone List.mem_cons_self
      exact lineBreak?_of_not_isControl
        (isControl_of_plain (hplain c List.mem_cons_self) hbreak) _
  have hdrop := dropFirstBreak_onLines cs hbody
  have hread := hspelled.read linesReader_literal hrest
    (((if cs.contains '\n' then ['\n'] else []) ++
      (cs ++ (List.replicate 3 '\'' ++ rest))).length + 1)
    (by simp only [List.length_append]; omega) (Or.inl rfl)
  rw [hshape]
  show (literalLinesBody _ (dropFirstBreak _) >>= fun read =>
    .ok (String.ofList read.1, read.2)) = _
  rw [hdrop, hread]
  rfl

/-- A string is read back, whichever form is chosen for it. -/
theorem string_stringText (s : String) (hquote : rest.head? ≠ some '"')
    (happly : rest.head? ≠ some '\'') :
    string ((stringText s).toList ++ rest) = .ok (s, rest) := by
  have hback : String.ofList s.toList = s := String.ofList_toList
  unfold stringText
  simp only [String.toList_ofList]
  split
  · rw [string_basic _ hquote, hback]
  split
  · rename_i hbasic hform
    simp only [Bool.and_eq_true, Bool.not_eq_true', List.any_eq_false, beq_iff_eq] at hform
    obtain ⟨⟨hplain, hnone⟩, hbreaks⟩ := hform
    have hcs : s.toList ≠ [] := by
      intro hempty
      rw [hempty] at hbasic
      exact hbasic rfl
    have hinside : ∀ c ∈ s.toList, c ≠ '\'' ∧ isControl c = false := by
      intro c hc
      have hbreak : c ≠ '\n' := by
        rintro rfl
        rw [List.contains_iff_mem.mpr hc] at hbreaks
        exact absurd hbreaks (by decide)
      exact ⟨ne_of_longestRun hnone c hc,
        isControl_of_plain (by simpa using hplain c hc) hbreak⟩
    rw [string_literal _ hcs hinside, hback]
  split
  · rw [string_basicLines _ hquote, hback]
  split
  · rename_i hform
    simp only [Bool.and_eq_true, Bool.not_eq_true', List.any_eq_false, decide_eq_true_eq] at hform
    rw [string_literalLines _ hform.2 _ happly, hback]
    intro c hc
    simpa using hform.1 c hc
  split
  · rw [string_basicLines _ hquote, hback]
  · rw [string_basic _ hquote, hback]

end Strings

end ZigbeeBridge.Toml
