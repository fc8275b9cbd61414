import StaticSite.Markdown.EventStream
import StaticSite.Proofs.Html.AltText
import StaticSite.Proofs.Html.CalmMarkup
import StaticSite.Proofs.Url.ByteNotation

/-!
# Addresses of links

An address goes to its page in two layers: what may not stand in an address goes into percent
notation, and the two characters that may stand there but mean something on a page become
references. A reader of the page takes off both layers. A percent sign that was in the address is
left as it is, so what follows it must not become an escape by the notation: every character in
notation begins with a percent sign, which is no digit.

## What this module delivers

- `isHrefChar`, `MarksReferences`, with `isHrefChar_of_mem_escapeHref` and
  `marksReferences_escapeHref`: what a written address is made of.
- `hrefChar`, `read_escapeHref`: what is left of it when its references are resolved.
- `escapedByte?_flatMap_hrefChar`, `read_flatMap_hrefChar`: no escape is made, and what is left is
  read as the address is.
- `addressFront`, `linkFront_tag`: the front of a link, with the scheme of mail back in its place.
- `WritesAddress`, `writesAddresses`: the main statement.
-/

set_option autoImplicit false

namespace StaticSite.Html

open StaticSite.Markdown StaticSite.Number StaticSite.Text StaticSite.Url StaticSite.File

/-! ## What a written address is made of -/

/-- Whether a character is a letter, a digit, punctuation of addresses, or the beginning of a
reference. -/
def isHrefChar (c : Char) : Bool :=
  c.isAlphanum || ('&' :: hrefPunctuation).contains c

theorem isHrefChar_hexDigit : ∀ n < 16, isHrefChar (hexDigit n) := by decide

theorem isHrefChar_of_mem_percentChar (c : Char) : ∀ d ∈ percentChar c, isHrefChar d := by
  intro d hd
  obtain ⟨byte, -, hd⟩ := List.mem_flatMap.mp hd
  have hbyte := byte.toNat_lt
  simp only [percentByte, List.mem_cons, List.not_mem_nil, or_false] at hd
  rcases hd with rfl | rfl | rfl
  · decide
  · exact isHrefChar_hexDigit _ (by omega)
  · exact isHrefChar_hexDigit _ (by omega)

theorem isHrefChar_of_mem_escapeHrefChar (c : Char) : ∀ d ∈ escapeHrefChar c, isHrefChar d := by
  unfold escapeHrefChar
  split_ifs with hand hquote hkept
  · exact List.all_eq_true.mp (by decide)
  · exact List.all_eq_true.mp (by decide)
  · rw [List.forall_mem_singleton, isHrefChar, List.contains_cons]
    simp only [Bool.or_eq_true] at hkept ⊢
    exact hkept.imp id .inr
  · exact isHrefChar_of_mem_percentChar c

theorem isHrefChar_of_mem_escapeHref (address : String) :
    ∀ c ∈ (escapeHref address).toList, isHrefChar c := by
  rw [escapeHref, String.toList_ofList]
  intro c hc
  obtain ⟨d, -, hd⟩ := List.mem_flatMap.mp hc
  exact isHrefChar_of_mem_escapeHrefChar d c hd

theorem toNat_lt_of_isHrefChar {c : Char} (h : isHrefChar c) : c.toNat < 128 := by
  rw [isHrefChar, Bool.or_eq_true, List.contains_iff_mem] at h
  rcases h with hletter | hpunctuation
  · delta Char.isAlphanum Char.isAlpha Char.isUpper Char.isLower Char.isDigit at hletter
    simp only [Bool.or_eq_true, Bool.and_eq_true, decide_eq_true_eq, ge_iff_le,
      UInt32.le_iff_toNat_le] at hletter
    have hends : 'Z'.val.toNat = 90 ∧ 'z'.val.toNat = 122 ∧ '9'.val.toNat = 57 := by decide
    show c.val.toNat < 128
    omega
  · have hall : ('&' :: hrefPunctuation).all (·.toNat < 128) := by decide
    exact of_decide_eq_true (List.all_eq_true.mp hall c hpunctuation)

/-- These are visible characters of ASCII, and no quotes, angle brackets or backslashes. -/
theorem visible_of_isHrefChar {c : Char} (h : isHrefChar c) :
    0x20 < c.toNat ∧ c.toNat < 0x7f ∧ isBlank c = false ∧ c ∉ ['"', '\'', '<', '>', '\\'] := by
  have hall : ∀ n < 128, isHrefChar (Char.ofNat n) →
      0x20 < (Char.ofNat n).toNat ∧ (Char.ofNat n).toNat < 0x7f ∧
        isBlank (Char.ofNat n) = false ∧ Char.ofNat n ∉ ['"', '\'', '<', '>', '\\'] := by
    decide +kernel
  have hc := hall c.toNat (toNat_lt_of_isHrefChar h)
  rw [Char.ofNat_toNat] at hc
  exact hc h

/-- Whether every `&` in a text begins one of the two references. -/
def MarksReferences : List Char → Prop
  | [] => True
  | c :: rest =>
    (c = '&' → "amp;".toList <+: rest ∨ "#x27;".toList <+: rest) ∧ MarksReferences rest

theorem MarksReferences.append {front s : List Char} (hfront : '&' ∉ front)
    (h : MarksReferences s) : MarksReferences (front ++ s) := by
  induction front with
  | nil => exact h
  | cons c rest ih =>
      rw [List.mem_cons, not_or] at hfront
      exact ⟨fun hand => absurd hand.symm hfront.1, ih hfront.2⟩

/-- A reference stands wherever there is an `&`. -/
theorem MarksReferences.of_eq {s front rest : List Char} (h : MarksReferences s)
    (hsplit : s = front ++ '&' :: rest) : "amp;".toList <+: rest ∨ "#x27;".toList <+: rest := by
  induction front generalizing s with
  | nil =>
      subst hsplit
      exact h.1 rfl
  | cons c front ih =>
      subst hsplit
      exact ih h.2 rfl

theorem not_mem_percentChar (c : Char) : '&' ∉ percentChar c := by
  have hdigit : ∀ n < 16, hexDigit n ≠ '&' := by decide
  intro h
  obtain ⟨byte, -, hbyte⟩ := List.mem_flatMap.mp h
  have hlt := byte.toNat_lt
  simp only [percentByte, List.mem_cons, List.not_mem_nil, or_false] at hbyte
  rcases hbyte with hsign | hhigh | hlow
  · exact absurd hsign (by decide)
  · exact hdigit _ (by omega) hhigh.symm
  · exact hdigit _ (by omega) hlow.symm

theorem marksReferences_escapeHrefChar (c : Char) {s : List Char} (h : MarksReferences s) :
    MarksReferences (escapeHrefChar c ++ s) := by
  unfold escapeHrefChar
  split_ifs with hand hquote hkept
  · exact ⟨fun _ => .inl (List.prefix_append _ s), .append (by decide) h⟩
  · exact ⟨fun _ => .inr (List.prefix_append _ s), .append (by decide) h⟩
  · exact .append (by simpa using Ne.symm hand) h
  · exact .append (not_mem_percentChar c) h

theorem marksReferences_escapeHref (address : String) :
    MarksReferences (escapeHref address).toList := by
  rw [escapeHref, String.toList_ofList]
  induction address.toList with
  | nil => trivial
  | cons c rest ih =>
      rw [List.flatMap_cons]
      exact marksReferences_escapeHrefChar c ih

/-! ## References resolved -/

/-- The form in which a character of an address reaches a reader of the page. -/
def hrefChar (c : Char) : List Char :=
  if c = '&' ∨ c = '\'' ∨ (c.isAlphanum || hrefPunctuation.contains c) then [c] else percentChar c

theorem hrefChar_eq (c : Char) : hrefChar c = [c] ∨ hrefChar c = percentChar c := by
  unfold hrefChar
  split
  · exact .inl rfl
  · exact .inr rfl

/-- The reference to an apostrophe is read, whatever follows. -/
theorem read_apostrophe (s : List Char) :
    attributeReferences.read ("&#x27;".toList ++ s) = '\'' :: attributeReferences.read s := by
  have hpiece : attributeReferences.piece? '&' ("#x27;".toList ++ s) = some (['\''], 5) := rfl
  have hskip := readFrom_length attributeReferences "#x27;".toList s
  show attributeReferences.read ('&' :: ("#x27;".toList ++ s)) = _
  rw [Decoding.read, Decoding.readFrom, hpiece]
  exact congrArg ('\'' :: ·) hskip

theorem read_escapeHrefChar (c : Char) (s : List Char) :
    attributeReferences.read (escapeHrefChar c ++ s)
      = hrefChar c ++ attributeReferences.read s := by
  have hplain : ∀ front : List Char, '&' ∉ front →
      attributeReferences.read (front ++ s) = front ++ attributeReferences.read s := by
    intro front hfront
    have hnone : ∀ d ∈ front, ∀ rest, attributeReferences.piece? d rest = none :=
      fun d hd => piece?_of_ne fun hand => hfront (hand ▸ hd)
    rw [Decoding.read_append hnone]
    exact congrArg (· ++ attributeReferences.read s) (List.flatMap_singleton' front)
  by_cases hand : c = '&'
  · subst hand
    exact read_named (by decide : "amp".toList.all Char.isAlphanum) (by decide)
      (by decide +kernel) s
  by_cases hquote : c = '\''
  · subst hquote
    exact read_apostrophe s
  unfold escapeHrefChar hrefChar
  simp only [hand, hquote, if_false, false_or]
  split
  · exact hplain [c] (by simpa using Ne.symm hand)
  · exact hplain (percentChar c) (not_mem_percentChar c)

/-- With its references resolved, a written address is the address with the other characters in
percent notation. -/
theorem read_escapeHref (address : String) :
    attributeReferences.read (escapeHref address).toList = address.toList.flatMap hrefChar := by
  rw [escapeHref, String.toList_ofList]
  induction address.toList with
  | nil => rfl
  | cons c rest ih => rw [List.flatMap_cons, List.flatMap_cons, read_escapeHrefChar, ih]

/-! ## Percent notation resolved -/

theorem isAlphanum_of_hexValue? {c : Char} (h : hexValue? c ≠ none) : c.isAlphanum := by
  have hall : ∀ n < 128, hexValue? (Char.ofNat n) ≠ none → (Char.ofNat n).isAlphanum := by
    decide +kernel
  have hascii : c.toNat < 128 := by
    by_contra hbeyond
    exact h (hexValue?_of_le (Nat.not_lt.mp hbeyond))
  have hc := hall c.toNat hascii
  rw [Char.ofNat_toNat] at hc
  exact hc h

/-- Digits stay as they are, and what stands for another character does not begin with a digit. -/
theorem exists_hrefChar (c : Char) : ∃ first more, hrefChar c = first :: more ∧
    hexValue? first = hexValue? c ∧ (hexValue? c ≠ none → more = []) := by
  unfold hrefChar
  split
  · exact ⟨c, [], rfl, rfl, fun _ => rfl⟩
  · rename_i hother
    have hnone : hexValue? c = none := by
      by_contra hdigit
      exact hother (.inr (.inr (by rw [isAlphanum_of_hexValue? hdigit]; rfl)))
    obtain ⟨byte, bytes, hbytes⟩ := List.exists_cons_of_ne_nil (utf8EncodeChar_ne_nil (c := c))
    refine ⟨'%', _, by rw [percentChar, hbytes]; rfl, ?_, fun hdigit => absurd hnone hdigit⟩
    rw [hnone]
    rfl

/-- No escape is made: where no two digits follow a percent sign in an address, none follow it in
what a reader of the page gets. -/
theorem escapedByte?_flatMap_hrefChar {rest : List Char} (h : escapedByte? '%' rest = none) :
    escapedByte? '%' (rest.flatMap hrefChar) = none := by
  cases rest with
  | nil => rfl
  | cons a others =>
      obtain ⟨first, more, ha, hvalue, hsingle⟩ := exists_hrefChar a
      rw [List.flatMap_cons, ha, List.cons_append]
      by_cases hdigit : hexValue? a = none
      · -- what stands for the character may be long, but it begins with no digit
        cases more ++ others.flatMap hrefChar with
        | nil => rfl
        | cons d behind => exact digitsByte?_eq_none (.inl (hvalue.trans hdigit))
      rw [hsingle hdigit, List.nil_append]
      cases others with
      | nil => rfl
      | cons b others =>
          obtain ⟨second, more', hb, hvalue', -⟩ := exists_hrefChar b
          rw [List.flatMap_cons, hb, List.cons_append, escapedByte?_sign, digitsByte?, hvalue,
            hvalue']
          exact h

/-- The characters in percent notation and the escapes that were in the address are read as they
are in the address. -/
theorem read_flatMap_hrefChar (s : List Char) :
    percentNotation.read (s.flatMap hrefChar) = percentNotation.read s := by
  have hpercent : hrefChar '%' = ['%'] := by decide
  induction s using address_cases with
  | nil => rfl
  | escape a b byte rest hdigits ih =>
      have hkept : ∀ c, hexValue? c ≠ none → hrefChar c = [c] := fun c hdigit =>
        if_pos (.inr (.inr (by rw [isAlphanum_of_hexValue? hdigit]; rfl)))
      obtain ⟨hhigh, hlow⟩ := digitsByte?_eq_some hdigits
      simp only [List.flatMap_cons, hpercent, hkept a hhigh, hkept b hlow, List.singleton_append]
      rw [read_escape hdigits, read_escape hdigits, ih]
  | sign rest hnone ih =>
      -- a percent sign of the address stays as it is, and must not begin an escape now
      rw [List.flatMap_cons, hpercent, List.singleton_append,
        read_sign (escapedByte?_flatMap_hrefChar hnone), read_sign hnone, ih]
  | other c rest hother ih =>
      rw [List.flatMap_cons, read_cons hother, ← ih]
      rcases hrefChar_eq c with hsame | hwritten
      · rw [hsame, List.singleton_append, read_cons hother]
      · rw [hwritten, read_percentChar]

/-! ## Addresses on a page -/

/-- How an address is written into a page. -/
structure WritesAddress (address : String) : Prop where
  /-- Only letters, digits and punctuation of addresses are written: visible characters of ASCII,
  and no quotes, angle brackets or backslashes. -/
  alphabet : ∀ c ∈ (escapeHref address).toList, isHrefChar c ∧ 0x20 < c.toNat ∧ c.toNat < 0x7f ∧
    isBlank c = false ∧ c ∉ ['"', '\'', '<', '>', '\\']
  /-- Every `&` begins a reference. -/
  references : ∀ front rest, (escapeHref address).toList = front ++ '&' :: rest →
    "amp;".toList <+: rest ∨ "#x27;".toList <+: rest
  /-- A reader who resolves the references, and then the percent notation in the bytes of what is
  left, gets what he gets from the address itself. -/
  bytes : percentDecode (encode (.ofList (attributeReferences.read (escapeHref address).toList)))
    = percentDecode (encode address)
  /-- The same goes for the value of an attribute, whatever follows its closing quote. -/
  value : ∀ behind, percentDecode
      (encode (.ofList (attributeValue ((escapeHref address).toList ++ '"' :: behind))))
    = percentDecode (encode address)
  /-- Addresses may be written in parts. -/
  parts : ∀ more, escapeHref (address ++ more) = escapeHref address ++ escapeHref more

theorem writesAddress (address : String) : WritesAddress address := by
  have hchars := isHrefChar_of_mem_escapeHref address
  have hbytes : percentDecode
        (encode (.ofList (attributeReferences.read (escapeHref address).toList)))
      = percentDecode (encode address) := by
    rw [percentDecode_encode, percentDecode_encode, String.toList_ofList, read_escapeHref,
      read_flatMap_hrefChar]
  refine ⟨fun c hc => ⟨hchars c hc, visible_of_isHrefChar (hchars c hc)⟩,
    fun front rest hsplit => (marksReferences_escapeHref address).of_eq hsplit, hbytes,
    fun behind => ?_, escapeHref_append address⟩
  rw [attributeValue, upToQuote_append (quotable_escapeHref address), hbytes]

/-- The front of a link to an address. -/
def addressFront (address title : String) : String :=
  "<a href=\"" ++ escapeHref address ++
    (if title.isEmpty then "" else "\" title=\"" ++ escape title) ++ "\">"

/-- A link whose form is not that of mail is written with its address. -/
theorem linkFront_of_ne {form : LinkForm} (h : form ≠ .email) (address title : String) :
    Writer.linkFront form address title = addressFront address title := by
  rw [Writer.linkFront, if_neg h, addressFront]

/-- A link to an address of mail gets the scheme back. -/
theorem linkFront_email (address title : String) :
    Writer.linkFront .email address title = addressFront (mailScheme ++ address) title := by
  have hscheme : escapeHref mailScheme = "mailto:" := by decide +kernel
  have hopen : "<a href=\"mailto:" = "<a href=\"" ++ "mailto:" := by decide
  rw [Writer.linkFront, if_pos rfl, addressFront, escapeHref_append, hscheme, hopen]
  simp only [String.append_assoc]

/-- However a link was written, it begins with its own address. -/
theorem linkFront_tag (bare : Bool) (dest title : Scalar) :
    ∃ form address, (Span.link bare dest title).tag = .link form address title.textOrEmpty ∧
      Writer.linkFront form address title.textOrEmpty
        = addressFront dest.textOrEmpty title.textOrEmpty := by
  unfold Span.tag
  dsimp only
  split_ifs with hbare hscheme
  · refine ⟨.email, _, rfl, ?_⟩
    obtain ⟨rest, hrest⟩ := List.isPrefixOf_iff_prefix.mp hscheme
    have hlength : mailScheme.length = mailScheme.toList.length := String.length_toList.symm
    have hback : mailScheme ++ String.ofList (dest.textOrEmpty.toList.drop mailScheme.length)
        = dest.textOrEmpty := by
      rw [← String.toList_inj, String.toList_append, String.toList_ofList, ← hrest, hlength,
        List.drop_left]
    rw [linkFront_email, hback]
  · exact ⟨.autolink, _, rfl, linkFront_of_ne (by decide) _ _⟩
  · exact ⟨.inline, _, rfl, linkFront_of_ne (by decide) _ _⟩

/-- Every address is written so that a reader gets its bytes back, and it may be written in parts. A
link outside images is written with the whole address of its token, although the scheme is taken off
an address of mail and put back. -/
theorem writesAddresses :
    (∀ address, WritesAddress address) ∧
      ∀ (bare : Bool) (dest title : Scalar) (stack : List Tag) (highlighter : Option Highlighter)
        (standalone : Bool) (w : Writer), w.image = none →
        ∃ tag, (InlineToken.opening (.link bare dest title)).events stack
            = .ok ([.start tag], tag :: stack) ∧
          (w.prepareHeading (.start tag)).Continues
            (addressFront dest.textOrEmpty title.textOrEmpty)
            (w.step highlighter (.start tag, standalone)) := by
  refine ⟨writesAddress, fun bare dest title stack highlighter standalone w himage => ?_⟩
  -- the tag may have lost the scheme, but its front has the whole address again
  obtain ⟨form, address, htag, hfront⟩ := linkFront_tag bare dest title
  refine ⟨(Span.link bare dest title).tag, by rw [InlineToken.events], ?_⟩
  have hstep := Writer.continues_startLink form address title.textOrEmpty highlighter standalone
    (w.prepareHeading (.start (.link form address title.textOrEmpty)))
  rw [htag, Writer.step, himage]
  exact hstep.congr hfront

/-- A bare address of mail, with a character beyond ASCII, an apostrophe, an escape and a percent
sign that begins none. -/
theorem writesAddresses_sample :
    (({} : Writer).prepareHeading (.start (.link .email "é'%41%4@a&b" ""))).Continues
      "<a href=\"mailto:%C3%A9&#x27;%41%4@a&amp;b\">"
      (({} : Writer).step none (.start (.link .email "é'%41%4@a&b" ""), false)) := by
  obtain ⟨tag, hevents, hcontinues⟩ :=
    writesAddresses.2 true (.text "mailto:é'%41%4@a&b") .null [] none false {} rfl
  have htag : (Span.link true (.text "mailto:é'%41%4@a&b") .null).tag
      = .link .email "é'%41%4@a&b" "" := by decide +kernel
  rw [InlineToken.events, htag] at hevents
  obtain ⟨hevent, -⟩ := Prod.mk.inj (Except.ok.inj hevents)
  rw [← Event.start.inj (List.cons.inj hevent).1] at hcontinues
  exact hcontinues.congr (by decide +kernel)

end StaticSite.Html
