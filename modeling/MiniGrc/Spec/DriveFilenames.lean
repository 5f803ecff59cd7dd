import MiniGrc.App.EvidenceUploads

/-!
# Names of captured Drive files

`captured_filename` appends the extension of the mime type, and
`sanitize_original_filename` shortens the name to 255 characters before its extension is
looked at. The extension survives exactly if the name is short enough, or if it happens to
be cut behind the extension.

## Key results

- `extensionOf_ofList_iff`: the extension of a text, as an ending of the text
- `extensionOf_sanitizeOriginalFilename_iff`: the extension after sanitizing
- `capturedFilename_storable_iff`: when a captured name has the extension of its mime type
-/

namespace MiniGrc.PolicyStorage

variable {s t u : List Char} {c : Char} {extension : String}

/-- The text ends in a dot and the extension, in upper or lower case. -/
def EndsIn (extension : String) (text : List Char) : Prop :=
  '.' :: extension.toList <:+ text.map Char.toLower

instance : Decidable (EndsIn extension t) := inferInstanceAs (Decidable (_ <:+ _))

/-- An extension of lower-case letters. -/
def IsExtension (extension : String) : Prop :=
  extension.toList ≠ [] ∧ ∀ c ∈ extension.toList, c.isLower

/-! ## Characters -/

/-- Only a dot is a dot in lower case. -/
theorem toLower_eq_dot : c.toLower = '.' ↔ c = '.' := by
  constructor
  · intro h
    unfold Char.toLower at h
    split at h
    · next hupper =>
      have hval := congrArg (fun c : Char => c.val.toNat) h
      have hbounds := UInt32.le_iff_toNat_le.1 hupper.1
      have hbounds' := UInt32.le_iff_toNat_le.1 hupper.2
      simp at hval hbounds hbounds'
      omega
    · exact h
  · rintro rfl
    decide

/-- A letter is upper or lower case. -/
theorem isAlpha_eq : c.isAlpha = (c.isUpper || c.isLower) := rfl

/-- The codes of the upper-case letters. -/
theorem isUpper_iff : c.isUpper ↔ 65 ≤ c.toNat ∧ c.toNat ≤ 90 := by
  have hval : c.isUpper = decide (65 ≤ c.val ∧ c.val ≤ 90) := rfl
  simp [hval, UInt32.le_iff_toNat_le, ← Char.toNat_val]

/-- The codes of the lower-case letters. -/
theorem isLower_iff : c.isLower ↔ 97 ≤ c.toNat ∧ c.toNat ≤ 122 := by
  have hval : c.isLower = (decide (97 ≤ c.val) && decide (c.val ≤ 122)) := rfl
  simp [hval, UInt32.le_iff_toNat_le, ← Char.toNat_val]

/-- The codes of the letters. -/
theorem isAlpha_iff : c.isAlpha ↔
    (65 ≤ c.toNat ∧ c.toNat ≤ 90) ∨ (97 ≤ c.toNat ∧ c.toNat ≤ 122) := by
  rw [isAlpha_eq, Bool.or_eq_true, isUpper_iff, isLower_iff]

/-- A character whose lower case is a letter is one itself. -/
theorem isAlpha_of_isLower_toLower (h : c.toLower.isLower) : c.isAlpha := by
  unfold Char.toLower at h
  split at h
  · next hupper =>
    have hbounds := UInt32.le_iff_toNat_le.1 hupper.1
    have hbounds' := UInt32.le_iff_toNat_le.1 hupper.2
    exact isAlpha_iff.2 (.inl ⟨hbounds, hbounds'⟩)
  · exact isAlpha_iff.2 (.inr (isLower_iff.1 h))

/-- A letter is plain. -/
theorem isPlain_of_isAlpha (h : c.isAlpha) : isPlain c := by
  simp [isPlain, Char.isAlphanum, h]

/-- A letter is no space. -/
theorem isPySpace_eq_false_of_isAlpha (h : c.isAlpha) : isPySpace c = false := by
  have hbounds := isAlpha_iff.1 h
  simp only [isPySpace, Bool.or_eq_false_iff, Bool.and_eq_false_iff, decide_eq_false_iff_not,
    beq_eq_false_iff_ne]
  omega

/-- A letter is none of the other characters. -/
theorem ne_of_isAlpha {c' : Char} (h : c.isAlpha) (h' : c'.isAlpha = false) : c ≠ c' := by
  rintro rfl
  simp [h] at h'

/-! ## Parts of a text -/

/-- What is appended without the separator belongs to the last part. -/
theorem afterLast_append (h : c ∉ u) : afterLast c (t ++ u) = afterLast c t ++ u := by
  have hall : ∀ x ∈ u.reverse, decide (x ≠ c) = true := fun x hx =>
    decide_eq_true fun heq => h (heq ▸ List.mem_reverse.1 hx)
  rw [afterLast, List.reverse_append, List.takeWhile_append_of_pos hall, List.reverse_append,
    List.reverse_reverse]
  rfl

/-- The part after the last separator. -/
theorem afterLast_separator (h : c ∉ u) : afterLast c (t ++ c :: u) = u := by
  have hpart : afterLast c (t ++ [c]) = [] := by simp [afterLast]
  have hsplit : t ++ c :: u = (t ++ [c]) ++ u := by simp
  rw [hsplit, afterLast_append h, hpart, List.nil_append]

/-- A text is its last part, or ends in the separator and its last part. -/
theorem suffix_afterLast (c : Char) (t : List Char) :
    afterLast c t = t ∨ c :: afterLast c t <:+ t := by
  by_cases h : c ∈ t
  · obtain ⟨s, u, hsplit, hs⟩ := List.eq_append_cons_of_mem (List.mem_reverse.2 h)
    have ht : t = u.reverse ++ c :: s.reverse := by
      rw [← List.reverse_reverse t, hsplit]
      simp
    rw [ht, afterLast_separator (mt List.mem_reverse.1 hs)]
    exact .inr (List.suffix_append _ _)
  · left
    have happend := afterLast_append (t := []) h
    exact happend

/-- What follows and has no white space is not dropped with the white space in front. -/
theorem dropWhile_isPySpace_append (hne : u ≠ []) (h : ∀ c ∈ u, isPySpace c = false) :
    (t ++ u).dropWhile isPySpace = t.dropWhile isPySpace ++ u := by
  have hkeep : u.dropWhile isPySpace = u := by
    cases u with
    | nil => rfl
    | cons c u => exact List.dropWhile_cons_of_neg (by simp [h c List.mem_cons_self])
  rw [List.dropWhile_append, hkeep]
  split
  · next hempty => rw [List.isEmpty_iff.1 hempty, List.nil_append]
  · rfl

/-- What is appended and has no white space is not stripped. -/
theorem strip_append (hne : u ≠ []) (h : ∀ c ∈ u, isPySpace c = false) :
    strip (t ++ u) = t.dropWhile isPySpace ++ u := by
  have hright : (u.reverse ++ (t.dropWhile isPySpace).reverse).dropWhile isPySpace =
      u.reverse ++ (t.dropWhile isPySpace).reverse := by
    -- on that side the text begins with `u`
    obtain ⟨c, v, hreverse⟩ := List.exists_cons_of_ne_nil (mt List.reverse_eq_nil_iff.1 hne)
    have hc : c ∈ u := List.mem_reverse.1 (hreverse ▸ List.mem_cons_self)
    rw [hreverse]
    exact List.dropWhile_cons_of_neg (by simp [h c hc])
  rw [strip, dropWhile_isPySpace_append hne h, List.reverse_append, hright, List.reverse_append,
    List.reverse_reverse, List.reverse_reverse]

/-! ## Extensions -/

/-- The characters of an ending are letters. -/
theorem EndsIn.exists_stem (hextension : IsExtension extension) (h : EndsIn extension t) :
    ∃ stem ext, t = stem ++ '.' :: ext ∧ ext.map Char.toLower = extension.toList ∧
      ∀ c ∈ ext, c.isAlpha := by
  obtain ⟨l, ⟨stem, rfl⟩, hl⟩ := List.suffix_map_iff.1 h
  obtain ⟨dot, ext, rfl, hdot, hext⟩ := List.map_eq_cons_iff.1 hl.symm
  rw [toLower_eq_dot] at hdot
  subst hdot
  refine ⟨stem, ext, rfl, hext, fun c hc => isAlpha_of_isLower_toLower (hextension.2 _ ?_)⟩
  rw [← hext]
  exact List.mem_map_of_mem hc

/-- A text that goes on with a dot and the extension. -/
theorem endsIn_append {ext : List Char} (hext : ext.map Char.toLower = extension.toList) :
    EndsIn extension (t ++ '.' :: ext) := by
  have hsuffix : '.' :: ext <:+ t ++ '.' :: ext := List.suffix_append _ _
  have hmap := hsuffix.map Char.toLower
  rw [List.map_cons, hext] at hmap
  exact hmap

/-- The extension of a text that is longer than the extension is an ending of it. -/
theorem extensionOf_ofList_iff (hextension : IsExtension extension)
    (hlength : extension.length < t.length ∨ EndsIn extension t) :
    extensionOf (.ofList t) = extension ↔ EndsIn extension t := by
  have hiff : extensionOf (.ofList t) = extension ↔
      (afterLast '.' t).map Char.toLower = extension.toList := by
    rw [extensionOf, String.toList_ofList, ← String.toList_inj, String.toList_ofList]
  rw [hiff]
  constructor
  · intro h
    rcases hlength with hlength | hends
    · have hsuffix : '.' :: afterLast '.' t <:+ t := by
        refine (suffix_afterLast '.' t).resolve_left fun hall => ?_
        have hsame := congrArg List.length h
        rw [hall, List.length_map, String.length_toList] at hsame
        omega
      have hmap := hsuffix.map Char.toLower
      rw [List.map_cons, h] at hmap
      exact hmap
    · exact hends
  · intro h
    obtain ⟨stem, ext, rfl, hext, halpha⟩ := h.exists_stem hextension
    have hdot : '.' ∉ ext := fun hmem => ne_of_isAlpha (halpha _ hmem) (by decide) rfl
    rw [afterLast_separator hdot, hext]

/-- A character becomes the same one in lower case, whether it is sanitized before or not. -/
theorem toLower_plain_eq (hplain : c = '.' ∨ c.isLower) {x : Char} :
    (if isPlain x then x else '_').toLower = c ↔ x.toLower = c := by
  split
  · rfl
  · next hx =>
    have hunderscore : '_'.toLower ≠ c := by
      rintro rfl
      exact absurd hplain (by decide)
    refine iff_of_false hunderscore ?_
    rintro rfl
    rcases hplain with hdot | hlower
    · rw [toLower_eq_dot] at hdot
      subst hdot
      exact hx (by decide)
    · exact hx (isPlain_of_isAlpha (isAlpha_of_isLower_toLower hlower))

/-- Sanitizing characters keeps the ending. -/
theorem endsIn_map_plain (hextension : IsExtension extension) :
    EndsIn extension (t.map fun c => if isPlain c then c else '_') ↔ EndsIn extension t := by
  have hplain : ∀ c ∈ '.' :: extension.toList, c = '.' ∨ c.isLower := by
    intro c hc
    rcases List.mem_cons.1 hc with rfl | hc
    · exact .inl rfl
    · exact .inr (hextension.2 c hc)
  have hmap : ∀ (s l : List Char), (∀ c ∈ s, c = '.' ∨ c.isLower) →
      (s = l.map (Char.toLower ∘ fun c => if isPlain c then c else '_') ↔
        s = l.map Char.toLower) := by
    intro s l
    -- Character by character: a dot and a letter stay what they are.
    induction l generalizing s with
    | nil => exact fun _ => Iff.rfl
    | cons x l ih =>
      cases s with
      | nil => simp
      | cons c s =>
        intro hs
        have hhead := toLower_plain_eq (hs c List.mem_cons_self) (x := x)
        have htail := ih s fun c hc => hs c (List.mem_cons_of_mem _ hc)
        simp only [List.map_cons, List.cons.injEq, htail, Function.comp_apply, @eq_comm _ c, hhead]
  unfold EndsIn
  rw [List.map_map, List.suffix_map_iff, List.suffix_map_iff]
  exact exists_congr fun l => and_congr_right fun _ => hmap _ l hplain

/-- The name that `sanitize_original_filename` shortens. -/
def baseName (filename : String) : List Char :=
  (strip (afterLast '/' filename.toList)).filter (· ≠ Char.ofNat 0)

/-- A base name is shortened, and characters that are not plain are replaced. -/
theorem sanitizeOriginalFilename_eq {filename : String} (hne : baseName filename ≠ []) :
    sanitizeOriginalFilename filename =
      .ofList (((baseName filename).take 255).map fun c => if isPlain c then c else '_') := by
  have hname : sanitizeOriginalFilename filename =
      if String.ofList (((baseName filename).map fun c => if isPlain c then c else '_').take 255) =
        "" then "file"
      else .ofList (((baseName filename).map fun c => if isPlain c then c else '_').take 255) := rfl
  rw [hname, if_neg, List.map_take]
  intro hempty
  have hnil := congrArg String.toList hempty
  obtain ⟨c, base, hcons⟩ := List.exists_cons_of_ne_nil hne
  simp [hcons] at hnil

/-- The extension of a sanitized name: a base name that ends in it keeps it exactly if it is
    short enough, or cut behind another ending of this kind. -/
theorem extensionOf_sanitizeOriginalFilename_iff {filename : String}
    (hextension : IsExtension extension) (hshort : extension.length < 255)
    (hends : EndsIn extension (baseName filename)) :
    extensionOf (sanitizeOriginalFilename filename) = extension ↔
      (baseName filename).length ≤ 255 ∨ EndsIn extension ((baseName filename).take 255) := by
  have hne : baseName filename ≠ [] := by
    intro hnil
    rw [hnil] at hends
    simp [EndsIn] at hends
  rw [sanitizeOriginalFilename_eq hne]
  generalize baseName filename = base at *
  -- A name that is too long is cut, with its extension.
  by_cases hle : base.length ≤ 255
  · rw [List.take_of_length_le hle]
    refine iff_of_true ?_ (.inl hle)
    have hkept := (endsIn_map_plain hextension).2 hends
    exact (extensionOf_ofList_iff hextension (.inr hkept)).2 hkept
  · have hlength : extension.length <
        ((base.take 255).map fun c => if isPlain c then c else '_').length := by
      rw [List.length_map, List.length_take]
      omega
    rw [extensionOf_ofList_iff hextension (.inl hlength), endsIn_map_plain hextension]
    exact (or_iff_right hle).symm

end MiniGrc.PolicyStorage

namespace MiniGrc.EvidenceUploads

open PolicyStorage

variable {lower : String → String} {name extension : String} {metadata : DriveFileMetadata}

/-- The extension that belongs to a supported mime type. -/
def extensionFor (mimeType : String) : Option String :=
  if mimeType ∈ googleWorkspaceExportMimeTypes then some "pdf"
  else blobMimeTypeExtensions.lookup mimeType

/-- `str.lower` makes an ending out of the ASCII letters of an extension, in upper or lower
    case, and of nothing else. -/
def LowersExtensions (lower : String → String) : Prop :=
  ∀ name, ∀ extension ∈ ["pdf", "docx"],
    '.' :: extension.toList <:+ (lower name).toList ↔ EndsIn extension name.toList

/-- The last component of a path, without white space in front and null characters. -/
def lastComponent (text : List Char) : List Char :=
  ((afterLast '/' text).dropWhile isPySpace).filter (· ≠ Char.ofNat 0)

/-- The last component of a Drive name, with the extension unless the name ends in it. -/
def capturedBase (name extension : String) : List Char :=
  lastComponent name.toList ++ if EndsIn extension name.toList then [] else '.' :: extension.toList

/-- The captured name is short enough, or cut behind an ending in the extension. -/
def FitsColumn (name extension : String) : Prop :=
  (capturedBase name extension).length ≤ 255 ∨
    EndsIn extension ((capturedBase name extension).take 255)

/-- The two extensions a media type may have. -/
theorem extensionFor_mem (h : extensionFor metadata.mimeType = some extension) :
    extension ∈ ["pdf", "docx"] := by
  unfold extensionFor at h
  split at h
  · obtain rfl := Option.some.inj h
    decide
  · have hall : ∀ x ∈ blobMimeTypeExtensions, x.2 ∈ ["pdf", "docx"] := by decide
    obtain ⟨before, after, hsplit, -⟩ := List.lookup_eq_some_iff.1 h
    exact hall (metadata.mimeType, extension) (by simp [hsplit])

/-- The extension of a supported mime type is an accepted one, in lower-case letters. -/
theorem isExtension_of_mem (h : extension ∈ ["pdf", "docx"]) :
    IsExtension extension ∧ extension.toList.map Char.toLower = extension.toList ∧
      extension.length < 255 ∧ mediaTypeOf extension ≠ none := by
  rcases List.mem_pair.1 h with rfl | rfl
  · exact ⟨⟨by decide +kernel, List.all_eq_true.1 (by decide +kernel)⟩, by decide +kernel,
      by decide +kernel, by decide +kernel⟩
  · exact ⟨⟨by decide +kernel, List.all_eq_true.1 (by decide +kernel)⟩, by decide +kernel,
      by decide +kernel, by decide +kernel⟩

/-- `captured_filename` looks at the extension of the mime type only. -/
theorem capturedFilename_eq (h : extensionFor metadata.mimeType = some extension) :
    capturedFilename lower metadata = withExtension lower metadata.name extension := by
  unfold extensionFor at h
  unfold capturedFilename
  split at h
  · next hexport =>
    obtain rfl := Option.some.inj h
    rw [if_pos hexport]
  · next hexport =>
    rw [if_neg hexport]
    simp only [h]

/-- The last component keeps letters after a dot, and is not stripped behind them. -/
theorem lastComponent_append (stem : List Char) {ext : List Char} (halpha : ∀ c ∈ ext, c.isAlpha) :
    lastComponent (stem ++ '.' :: ext) = lastComponent stem ++ '.' :: ext ∧
      baseName (.ofList (stem ++ '.' :: ext)) = lastComponent stem ++ '.' :: ext := by
  have hne : ∀ c ∈ '.' :: ext, c ≠ '/' ∧ isPySpace c = false ∧ c ≠ Char.ofNat 0 := by
    intro c hc
    rcases List.mem_cons.1 hc with rfl | hc
    · decide
    · exact ⟨ne_of_isAlpha (halpha c hc) (by decide), isPySpace_eq_false_of_isAlpha (halpha c hc),
        ne_of_isAlpha (halpha c hc) (by decide)⟩
  have hslash : '/' ∉ '.' :: ext := fun hmem => (hne _ hmem).1 rfl
  have hspace : ∀ c ∈ '.' :: ext, isPySpace c = false := fun c hc => (hne c hc).2.1
  have hnull : ('.' :: ext).filter (· ≠ Char.ofNat 0) = '.' :: ext :=
    List.filter_eq_self.2 fun c hc => decide_eq_true (hne c hc).2.2
  constructor
  · rw [lastComponent, afterLast_append hslash,
      dropWhile_isPySpace_append (List.cons_ne_nil _ _) hspace, List.filter_append, hnull]
    rfl
  · rw [baseName, String.toList_ofList, afterLast_append hslash,
      strip_append (List.cons_ne_nil _ _) hspace, List.filter_append, hnull]
    rfl

/-- What of a captured name is shortened, and that it ends in the extension. -/
theorem baseName_withExtension (hlower : LowersExtensions lower) (name : String)
    (hmem : extension ∈ ["pdf", "docx"]) :
    baseName (withExtension lower name extension) = capturedBase name extension ∧
      EndsIn extension (capturedBase name extension) := by
  obtain ⟨hextension, hsame, -, -⟩ := isExtension_of_mem hmem
  have hdot : (s!".{extension}").toList = '.' :: extension.toList := by
    rw [String.toList_append]
    rfl
  have hiff : (s!".{extension}").toList.isSuffixOf (lower name).toList ↔
      EndsIn extension name.toList := by
    rw [← hlower name extension hmem, List.isSuffixOf_iff_suffix, hdot]
  unfold withExtension capturedBase
  -- The extension is added where the name does not carry it.
  by_cases hends : EndsIn extension name.toList
  · obtain ⟨stem, ext, hname, hext, halpha⟩ := hends.exists_stem hextension
    obtain ⟨hlast, hbase⟩ := lastComponent_append stem halpha
    rw [← hname, String.ofList_toList] at hbase
    rw [if_pos (hiff.2 hends), if_pos hends, List.append_nil, hbase, hname, hlast]
    exact ⟨rfl, endsIn_append hext⟩
  · have halpha : ∀ c ∈ extension.toList, c.isAlpha := fun c hc => by
      rw [isAlpha_eq, hextension.2 c hc, Bool.or_true]
    obtain ⟨-, hbase⟩ := lastComponent_append name.toList halpha
    have happend : s!"{name}.{extension}" = .ofList (name.toList ++ '.' :: extension.toList) := by
      apply String.toList_inj.1
      rw [String.toList_append, String.toList_append, List.append_assoc, String.toList_ofList]
      rfl
    rw [if_neg (mt hiff.1 hends), if_neg hends, happend, hbase]
    exact ⟨rfl, endsIn_append hsame⟩

/-- The message for another extension. -/
def onlyPdfAndDocx : UploadError := .validation "Only PDF and DOCX files are accepted."

/-- The message for a file that is too large. -/
theorem writeChunks_error {maxBytes : Nat} {written : Bytes × Nat} {chunks : List Bytes}
    {message : String} (h : StagedFiles.writeChunks maxBytes written chunks = .error message) :
    message = s!"File exceeds the maximum upload size of {maxBytes / (1024 * 1024)} MB." := by
  induction chunks generalizing written with
  | nil => cases h
  | cons chunk chunks ih =>
    rw [StagedFiles.writeChunks] at h
    split at h
    · exact (Except.error.inj h).symm
    · exact ih h

/-- What a failed check of the content says. -/
theorem validateContent_error {storage : Storage} {content : Bytes} {e : UploadError}
    (h : validateContent storage content extension = .error e) : e ≠ onlyPdfAndDocx := by
  unfold validateContent at h
  split_ifs at h
  · rw [← Except.error.inj h]
    decide
  · unfold looksLikeDocx at h
    split at h
    · rw [← Except.error.inj h]
      decide
    · rw [← Except.error.inj h]
      decide
    · simp only [Except.bind] at h
      split_ifs at h
      rw [← Except.error.inj h]
      decide

/-- A file with an accepted extension is not refused for it. -/
theorem stage_ne_onlyPdfAndDocx {storage : Storage} {filename : String} {chunks : List Bytes}
    (h : mediaTypeOf (extensionOf (sanitizeOriginalFilename filename)) ≠ none) :
    stage storage filename chunks ≠ .error onlyPdfAndDocx := by
  unfold stage
  split
  · next hnone => exact absurd hnone h
  unfold stageContent
  split
  · next hwritten =>
    intro herror
    have hmessage := UploadError.validation.inj (Except.error.inj herror)
    rw [writeChunks_error hwritten] at hmessage
    -- the messages differ in their first character
    have hfirst : ∀ size : String,
        ("File exceeds the maximum upload size of " ++ size).toList.head? = some 'F' := by
      intro size
      rw [String.toList_append]
      rfl
    have hhead := congrArg (fun text => text.toList.head?) hmessage
    rw [String.append_assoc] at hhead
    exact absurd ((hfirst _).symm.trans hhead) (by decide)
  split
  · next hvalid => exact fun herror => validateContent_error hvalid (Except.error.inj herror)
  · exact nofun

/-- A file without an accepted extension is refused. -/
theorem stage_eq_onlyPdfAndDocx {storage : Storage} {filename : String} {chunks : List Bytes}
    (h : mediaTypeOf (extensionOf (sanitizeOriginalFilename filename)) = none) :
    stage storage filename chunks = .error onlyPdfAndDocx := by
  unfold stage
  rw [h]
  rfl

/-- For every Drive file of a supported mime type, the captured name is accepted with the
    extension of the mime type exactly if it is short enough, or cut behind such an ending. -/
theorem capturedFilename_storable_iff (lower : String → String) (hlower : LowersExtensions lower)
    (storage : Storage) (metadata : DriveFileMetadata) (extension : String)
    (hsupported : extensionFor metadata.mimeType = some extension) :
    ((∀ rawBytes, stage storage (capturedFilename lower metadata) (iterBytesChunks rawBytes) ≠
        .error onlyPdfAndDocx) ∧
      extensionOf (sanitizeOriginalFilename (capturedFilename lower metadata)) = extension) ↔
      FitsColumn metadata.name extension := by
  have hmem := extensionFor_mem hsupported
  obtain ⟨hextension, -, hshort, hmedia⟩ := isExtension_of_mem hmem
  obtain ⟨hbase, hends⟩ := baseName_withExtension hlower metadata.name hmem
  rw [capturedFilename_eq hsupported]
  have hiff := extensionOf_sanitizeOriginalFilename_iff hextension hshort (hbase ▸ hends)
  rw [hbase] at hiff
  constructor
  · intro h
    exact hiff.1 h.2
  · intro hfits
    have heq := hiff.2 hfits
    exact ⟨fun rawBytes => stage_ne_onlyPdfAndDocx (by rwa [heq]), heq⟩

/-- `str.lower` of an ASCII text. -/
def asciiLower (text : String) : String := .ofList (text.toList.map Char.toLower)

/-- Lower case in ASCII is right for the extensions. -/
theorem lowersExtensions_asciiLower : LowersExtensions asciiLower := by
  intro name extension _
  rw [asciiLower, String.toList_ofList, EndsIn]

/-- A PDF file with a name that has no extension. -/
theorem capturedFilename_storable_securityPolicy :
    (∀ rawBytes, stage ⟨fun _ => "", fun _ => .notZip, 10⟩
        (capturedFilename asciiLower ⟨"f", "Security Policy", "application/pdf", none⟩)
        (iterBytesChunks rawBytes) ≠ .error onlyPdfAndDocx) ∧
      extensionOf (sanitizeOriginalFilename
        (capturedFilename asciiLower ⟨"f", "Security Policy", "application/pdf", none⟩)) =
          "pdf" :=
  (capturedFilename_storable_iff asciiLower lowersExtensions_asciiLower
    ⟨fun _ => "", fun _ => .notZip, 10⟩ ⟨"f", "Security Policy", "application/pdf", none⟩ "pdf"
    (by decide)).2 (.inl (by decide +kernel))

/-- Longer texts are no accepted extensions. -/
theorem mediaTypeOf_eq_none (h : 4 < extension.length) : mediaTypeOf extension = none := by
  have hall : ∀ x ∈ allowedExtensions, x.1.length ≤ 4 := by decide
  refine List.lookup_eq_none_iff.2 fun x hx => bne_iff_ne.2 fun heq => ?_
  have hle := hall x hx
  rw [← heq] at hle
  omega

/-- A PDF file with a name of 255 letters: what is stored of the name has no extension, and
    every content is refused. -/
theorem capturedFilename_tooLong :
    extensionFor "application/pdf" = some "pdf" ∧
      ∀ (storage : Storage) (rawBytes : Bytes), stage storage
        (capturedFilename asciiLower
          ⟨"f", .ofList (List.replicate 255 'a'), "application/pdf", none⟩)
        (iterBytesChunks rawBytes) = .error onlyPdfAndDocx := by
  have hpdf : extensionFor "application/pdf" = some "pdf" := by decide
  constructor
  · exact hpdf
  · intro storage rawBytes
    rw [capturedFilename_eq hpdf]
    have hbase : baseName (withExtension asciiLower (.ofList (List.replicate 255 'a')) "pdf") =
        List.replicate 255 'a' ++ ".pdf".toList := by
      rw [(baseName_withExtension lowersExtensions_asciiLower _ (by decide)).1, capturedBase,
        String.toList_ofList]
      decide +kernel
    have hsanitized : sanitizeOriginalFilename
        (withExtension asciiLower (.ofList (List.replicate 255 'a')) "pdf") =
          .ofList (List.replicate 255 'a') := by
      have hne : List.replicate 255 'a' ++ ".pdf".toList ≠ [] := by decide +kernel
      rw [sanitizeOriginalFilename_eq (hbase ▸ hne), hbase]
      exact congrArg String.ofList (by decide +kernel)
    have hlength : (extensionOf (.ofList (List.replicate 255 'a'))).length = 255 := by
      rw [extensionOf, ← String.length_toList, String.toList_ofList, String.toList_ofList]
      decide +kernel
    apply stage_eq_onlyPdfAndDocx
    rw [hsanitized]
    exact mediaTypeOf_eq_none (by rw [hlength]; decide)

end MiniGrc.EvidenceUploads
