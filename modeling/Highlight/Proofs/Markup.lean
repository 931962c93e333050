import Highlight.Html
import Highlight.Proofs.Rendering

/-! Rendered pages are well formed and carry the text. Names are checked before they are written, values
and texts are escaped, each by its own table: so nothing that is written can end an attribute, a tag or
a body before its time, and a scan that knows neither tag nor text finds the bodies. Texts are escaped
character by character, whatever number of passes that takes, so it does not matter where marks cut. -/
namespace Highlight

namespace Text

variable {target written : Text}

theorem substitute_skip (rule : Text → Option (Nat × Text)) (consumed rest : Text) :
    substitute rule consumed.length (consumed ++ rest) = substitute rule 0 rest := by
  induction consumed with
  | nil => rfl
  | cons c later ih => simpa [substitute] using ih

theorem substitute_hit {rule : Text → Option (Nat × Text)} {piece rest : Text} (nonempty : piece ≠ [])
    (taken : rule (piece ++ rest) = some (piece.length, written)) :
    substitute rule 0 (piece ++ rest) = written ++ substitute rule 0 rest := by
  obtain ⟨c, later, rfl⟩ := List.exists_cons_of_ne_nil nonempty
  rw [List.cons_append] at taken ⊢
  rw [substitute, taken]
  exact congrArg (written ++ ·) (substitute_skip rule later rest)

theorem substitute_miss {rule : Text → Option (Nat × Text)} {c : Char} {rest : Text}
    (missed : rule (c :: rest) = none) :
    substitute rule 0 (c :: rest) = c :: substitute rule 0 rest := by
  rw [substitute, missed]

theorem replaceAll_hit (nonempty : target ≠ []) (rest : Text) :
    (target ++ rest).replaceAll target written = written ++ rest.replaceAll target written := by
  have found : target.isPrefixOf (target ++ rest) = true :=
    List.isPrefixOf_iff_prefix.mpr (List.prefix_append target rest)
  exact substitute_hit nonempty (if_pos found)

theorem replaceAll_miss {c : Char} {rest : Text} (missed : ¬ target <+: c :: rest) :
    replaceAll (c :: rest) target written = c :: replaceAll rest target written := by
  have other : ¬ target.isPrefixOf (c :: rest) = true := by simpa using missed
  exact substitute_miss (if_neg other)

theorem replaceAll_single (c : Char) (written text : Text) :
    text.replaceAll [c] written = text.flatMap fun d => if d == c then written else [d] := by
  induction text with
  | nil => rfl
  | cons d rest ih =>
    rw [List.flatMap_cons, ← ih]
    by_cases same : d = c
    · rw [same, beq_self_eq_true, if_pos rfl]
      exact replaceAll_hit (by simp) rest
    · rw [replaceAll_miss (by simp [Ne.symm same])]
      simp [same]

end Text

namespace Presentation

/-- Escapes as an attribute value, takes the apostrophes back, and goes over the result once for each
further character. -/
def escapeInPasses (text : Text) : Text :=
  let plain := (escapeValue text).replaceAll "&#x27;".toList ['\x27']
  let spaced := plain.replaceAll [' '] "&nbsp;".toList
  let broken := spaced.replaceAll ['\n'] "<br>".toList
  broken.replaceAll ['\\'] "&bsol;".toList

def escapeQuoteChar (c : Char) : Text := if c == '\x27' then [c] else escapeValueChar c

/-- The form of an apostrophe is not part of any other form, whatever follows. -/
theorem replaceAll_apostrophe (text : Text) :
    (escapeValue text).replaceAll "&#x27;".toList ['\x27'] = text.flatMap escapeQuoteChar := by
  induction text with
  | nil => rfl
  | cons c rest ih =>
    rw [List.flatMap_cons, ← ih, escapeValue, List.flatMap_cons]
    by_cases apostrophe : c = '\x27'
    · subst c
      exact @Text.replaceAll_hit "&#x27;".toList _ (by simp) _
    have kept : escapeQuoteChar c = escapeValueChar c := by simp [escapeQuoteChar, apostrophe]
    rw [kept, ← escapeValue]
    by_cases special : c ∈ ['&', '<', '>', '"']
    · simp only [List.mem_cons, List.not_mem_nil, or_false] at special
      rcases special with rfl | rfl | rfl | rfl <;> simp [escapeValueChar, Text.replaceAll_miss]
    · simp only [List.mem_cons, List.not_mem_nil, or_false, not_or] at special
      obtain ⟨ampersand, less, greater, quote⟩ := special
      have plain : escapeValueChar c = [c] := by
        simp only [escapeValueChar, beq_iff_eq, ampersand, less, greater, quote, apostrophe, ↓reduceIte]
      rw [plain, List.singleton_append]
      apply Text.replaceAll_miss
      rintro ⟨later, starts⟩
      exact ampersand (List.cons.inj starts).1.symm

theorem escapeInPasses_eq (text : Text) : escapeInPasses text = escape text := by
  simp only [escapeInPasses, replaceAll_apostrophe, Text.replaceAll_single, List.flatMap_assoc, escape]
  congr 1
  funext c
  by_cases special : c ∈ ['&', '<', '>', '"', '\x27', ' ', '\n', '\\']
  · simp only [List.mem_cons, List.not_mem_nil, or_false] at special
    rcases special with rfl | rfl | rfl | rfl | rfl | rfl | rfl | rfl <;> rfl
  · simp only [List.mem_cons, List.not_mem_nil, or_false, not_or] at special
    obtain ⟨ampersand, less, greater, quote, apostrophe, blank, lineFeed, backslash⟩ := special
    have kept : escapeQuoteChar c = [c] := by
      simp only [escapeQuoteChar, escapeValueChar, beq_iff_eq, ampersand, less, greater, quote,
        apostrophe, ↓reduceIte]
    have shown : escapeChar c = [c] := by
      simp only [escapeChar, beq_iff_eq, ampersand, less, greater, quote, blank, lineFeed, backslash,
        ↓reduceIte]
    simp only [kept, shown, List.flatMap_singleton, beq_iff_eq, blank, lineFeed, backslash, ↓reduceIte]

theorem escapeValueChar_mem (d : Char) : ∀ c ∈ escapeValueChar d, c ≠ '"' ∧ c ≠ '<' ∧ c ≠ '>' := by
  by_cases special : d ∈ ['&', '<', '>', '"', '\x27']
  · simp only [List.mem_cons, List.not_mem_nil, or_false] at special
    rcases special with rfl | rfl | rfl | rfl | rfl <;> simp [escapeValueChar]
  · simp only [List.mem_cons, List.not_mem_nil, or_false, not_or] at special
    simp [escapeValueChar, special]

theorem escapeValue_mem {text : Text} {c : Char} (member : c ∈ escapeValue text) :
    c ≠ '"' ∧ c ≠ '<' ∧ c ≠ '>' := by
  obtain ⟨d, _, written⟩ := List.mem_flatMap.mp member
  exact escapeValueChar_mem d c written

end Presentation

namespace Fragment

variable {a : Annotator} {styles : StyleSheet} {options : Options}

theorem flatMap_raw_eq {slack : Int} (sound : a.Sound slack) :
    (render a styles options).flatMap raw = a.text := by
  by_cases empty : a.text = []
  · simp [render, empty]
  obtain ⟨stop, _, past, tiling⟩ := @Region.exists_fillFrom_tiles (document a) _ _ _ sound.within
  rw [flatMap_raw_render empty, flatMap_slice sound.index (Int.le_refl 0) tiling]
  apply Grapheme.between_all
  have size : (document a).stop = (Grapheme.starts a.text).length := by
    rw [document, Annotator.size, sound.index, GraphemeIndex.size_ofText]
  omega

/-- Escaped fragment by fragment, a text is escaped as a whole. -/
theorem flatMap_text_eq {slack : Int} (sound : a.Sound slack)
    (escaped : options.escape = Presentation.escape) :
    (render a styles options).flatMap text = Presentation.escape a.text := by
  have each : ∀ fragment ∈ render a styles options,
      fragment.text = fragment.raw.flatMap Presentation.escapeChar := by
    intro fragment member
    rw [render_mem member, ofMark, ofRange, escaped]
    rfl
  rw [← @flatMap_raw_eq a styles options slack sound, Presentation.escape, List.flatMap_assoc,
    List.flatMap_def, List.flatMap_def, List.map_congr_left each]

end Fragment

namespace Html

structure Element where
  attributes : List (Text × Text)
  body : Text

def writeAttribute (entry : Text × Text) : Text := ' ' :: entry.1 ++ '=' :: '"' :: entry.2 ++ ['"']

def Element.write (tag : Text) (element : Element) : Text :=
  '<' :: tag ++ element.attributes.flatMap writeAttribute ++ '>' :: element.body ++
    '<' :: '/' :: tag ++ ['>']

/-- Angle brackets stand in line breaks only. -/
inductive IsBody : Text → Prop where
  | nil : IsBody []
  | char {c : Char} {rest : Text} : c ≠ '<' → c ≠ '>' → IsBody rest → IsBody (c :: rest)
  | lineBreak {rest : Text} : IsBody rest → IsBody ('<' :: 'b' :: 'r' :: '>' :: rest)

structure Element.WellFormed (element : Element) : Prop where
  names : ∀ entry ∈ element.attributes, isAttributeName entry.1 = true
  values : ∀ entry ∈ element.attributes, ∀ c ∈ entry.2, c ≠ '"' ∧ c ≠ '<' ∧ c ≠ '>'
  body : IsBody element.body

/-- Where a scan is: in a tag that starts or ends an element, or in a body of which it has read some. -/
inductive Reading where
  | tag (ends : Bool)
  | body (read : Text)

def Reading.next : (ends : Bool) → Reading
  | true => .tag false
  | false => .body []

/-- The bodies of a page. Tags end with the first angle bracket that closes, and bodies with the first
one that opens before a slash; what the tags are does not matter. -/
def bodies : Reading → Text → List Text
  | _, [] => []
  | .tag ends, c :: rest => bodies (if c = '>' then .next ends else .tag ends) rest
  | .body read, '<' :: '/' :: rest => read :: bodies (.tag true) rest
  | .body read, c :: rest => bodies (.body (read ++ [c])) rest

theorem bodies_tag {tag : Text} (closed : '>' ∉ tag) (ends : Bool) (rest : Text) :
    bodies (.tag ends) (tag ++ '>' :: rest) = bodies (.next ends) rest := by
  induction tag with
  | nil => simp [bodies]
  | cons c later ih =>
    simp only [List.mem_cons, not_or] at closed
    rw [List.cons_append, bodies, if_neg (Ne.symm closed.1), ih closed.2]

theorem bodies_body {body : Text} (isBody : IsBody body) (read rest : Text) :
    bodies (.body read) (body ++ '<' :: '/' :: rest) = (read ++ body) :: bodies (.tag true) rest := by
  induction isBody generalizing read with
  | nil => simp [bodies]
  | char opens _ _ ih => simp [bodies, opens, ih]
  | lineBreak _ ih => simp [bodies, ih]

theorem isName_mem {first further : Char → Bool} {name : Text}
    (proper : isName first further name = true) {c : Char} (member : c ∈ name) :
    first c = true ∨ further c = true := by
  cases name with
  | nil => simp at member
  | cons head rest =>
    simp only [isName, Bool.and_eq_true, List.all_eq_true] at proper
    rcases List.mem_cons.mp member with rfl | later
    · exact .inl proper.1
    · exact .inr (proper.2 c later)

theorem isTagName_closed {tag : Text} (proper : isTagName tag = true) : '>' ∉ tag := by
  intro member
  exact absurd (isName_mem proper member) (by decide)

theorem isAttributeName_closed {name : Text} (proper : isAttributeName name = true) : '>' ∉ name := by
  intro member
  exact absurd (isName_mem proper member) (by decide)

variable {tag : Text}

theorem Element.WellFormed.closed {element : Element} (wellFormed : element.WellFormed) :
    '>' ∉ element.attributes.flatMap writeAttribute := by
  intro member
  obtain ⟨entry, listed, written⟩ := List.mem_flatMap.mp member
  have name := isAttributeName_closed (wellFormed.names entry listed)
  have value : '>' ∉ entry.2 := fun inside => (wellFormed.values entry listed _ inside).2.2 rfl
  simp [writeAttribute, name, value] at written

/-- The body of a well-formed element is found, whatever comes after it. -/
theorem bodies_write (proper : isTagName tag = true) {element : Element}
    (wellFormed : element.WellFormed) (rest : Text) :
    bodies (.tag false) (element.write tag ++ rest) = element.body :: bodies (.tag false) rest := by
  have closed := isTagName_closed proper
  have start : '>' ∉ '<' :: tag ++ element.attributes.flatMap writeAttribute := by
    simp [closed, wellFormed.closed]
  calc bodies (.tag false) (element.write tag ++ rest)
    _ = bodies (.tag false) (('<' :: tag ++ element.attributes.flatMap writeAttribute) ++
          '>' :: (element.body ++ '<' :: '/' :: (tag ++ '>' :: rest))) := by
      simp [Element.write]
    _ = bodies (.body []) (element.body ++ '<' :: '/' :: (tag ++ '>' :: rest)) :=
      bodies_tag start false _
    _ = element.body :: bodies (.tag true) (tag ++ '>' :: rest) := bodies_body wellFormed.body [] _
    _ = element.body :: bodies (.tag false) rest := by rw [bodies_tag closed true]; rfl

theorem bodies_elements (proper : isTagName tag = true) {elements : List Element}
    (wellFormed : ∀ element ∈ elements, element.WellFormed) :
    bodies (.tag false) (elements.flatMap (Element.write tag)) = elements.map Element.body := by
  induction elements with
  | nil => rfl
  | cons first rest ih =>
    obtain ⟨here, later⟩ := List.forall_mem_cons.mp wellFormed
    rw [List.flatMap_cons, bodies_write proper here, ih later, List.map_cons]

theorem IsBody.append {piece rest : Text} (plain : ∀ c ∈ piece, c ≠ '<' ∧ c ≠ '>')
    (isBody : IsBody rest) : IsBody (piece ++ rest) := by
  induction piece with
  | nil => exact isBody
  | cons c later ih =>
    obtain ⟨here, after⟩ := List.forall_mem_cons.mp plain
    exact .char here.1 here.2 (ih after)

theorem escape_isBody (text : Text) : IsBody (Presentation.escape text) := by
  induction text with
  | nil => exact .nil
  | cons c rest ih =>
    rw [Presentation.escape, List.flatMap_cons]
    by_cases broken : c = '\n'
    · subst c
      exact .lineBreak ih
    apply IsBody.append _ ih
    by_cases special : c ∈ ['&', '<', '>', '"', ' ', '\\']
    · simp only [List.mem_cons, List.not_mem_nil, or_false] at special
      rcases special with rfl | rfl | rfl | rfl | rfl | rfl <;> simp [Presentation.escapeChar]
    · simp only [List.mem_cons, List.not_mem_nil, or_false, not_or] at special
      simp [Presentation.escapeChar, special, broken]

def writtenEntry (entry : Attribute) : Text × Text :=
  (entry.1.toList, Presentation.escapeValue entry.2.plain.toList)

/-- The declarations of a style as the value of one attribute; there is none without declarations. -/
def styleEntries (fragment : Fragment) : List (Text × Text) :=
  if fragment.style.isEmpty then [] else [("style".toList, Presentation.escapeValue fragment.css)]

def Element.ofFragment (fragment : Fragment) : Element where
  attributes := fragment.extra.map writtenEntry ++ styleEntries fragment
  body := fragment.text

theorem styleAttribute_eq (fragment : Fragment) :
    styleAttribute fragment = (styleEntries fragment).flatMap writeAttribute := by
  unfold styleAttribute styleEntries
  split
  · rfl
  · simp [quotedAttribute, writeAttribute]

/-- The attributes that a caller adds can be written. -/
def Writable (extra : List Attribute) : Prop :=
  ∀ entry ∈ extra, isAttributeName entry.1.toList = true ∧ entry.2.isText = true

theorem Writable.extraAttributes_eq {extra : List Attribute} (writable : Writable extra) :
    extraAttributes extra = .ok ((extra.map writtenEntry).flatMap writeAttribute) := by
  induction extra with
  | nil => rfl
  | cons entry rest ih =>
    obtain ⟨name, value⟩ := entry
    obtain ⟨⟨named, text⟩, later⟩ := List.forall_mem_cons.mp writable
    cases value with
    | text written =>
      simp only [extraAttributes, extraAttribute, named, ↓reduceIte, ih later]
      rfl
    | _ => simp [Datum.isText] at text

variable {fragment : Fragment}

theorem Writable.wellFormed (writable : Writable fragment.extra) (body : IsBody fragment.text) :
    (Element.ofFragment fragment).WellFormed := by
  have known {entry : Text × Text} (listed : entry ∈ (Element.ofFragment fragment).attributes) :
      isAttributeName entry.1 = true ∧ ∃ value, entry.2 = Presentation.escapeValue value := by
    rcases List.mem_append.mp listed with added | styled
    · obtain ⟨given, member, rfl⟩ := List.mem_map.mp added
      exact ⟨(writable given member).1, _, rfl⟩
    · unfold styleEntries at styled
      split at styled
      · simp at styled
      · obtain rfl := List.mem_singleton.mp styled
        exact ⟨show isAttributeName "style".toList = true by decide, _, rfl⟩
  constructor
  · exact fun entry listed => (known listed).1
  · intro entry listed c inside
    obtain ⟨value, written⟩ := (known listed).2
    rw [written] at inside
    exact Presentation.escapeValue_mem inside
  · exact body

theorem Writable.element_eq (writable : Writable fragment.extra) :
    element tag fragment = do
      checkProperties fragment.label fragment.style
      return (Element.ofFragment fragment).write tag := by
  simp only [element, writable.extraAttributes_eq, styleAttribute_eq, Element.write,
    Element.ofFragment, List.flatMap_append, ← List.append_assoc, List.cons_append]
  rfl

theorem checkProperties_cases (label : String) (properties : List Attribute) :
    (checkProperties label properties = .ok () ∧
      ∀ entry ∈ properties, isPropertyName entry.1.toList = true) ∨
    ∃ fault, checkProperties label properties = .error fault ∧ fault.family = .render ∧
      ∃ entry ∈ properties, isPropertyName entry.1.toList = false := by
  induction properties with
  | nil => exact .inl ⟨rfl, by simp⟩
  | cons entry rest ih =>
    obtain ⟨name, value⟩ := entry
    cases named : isPropertyName name.toList with
    | false =>
      right
      refine ⟨.invalidProperty name label, ?_, rfl, (name, value), List.mem_cons_self, named⟩
      simp [checkProperties, named]
    | true => simpa [checkProperties, named] using ih

theorem elements_cases {fragments : List Fragment}
    (writable : ∀ fragment ∈ fragments, Writable fragment.extra) :
    (elements tag fragments = .ok ((fragments.map Element.ofFragment).flatMap (Element.write tag)) ∧
      ∀ fragment ∈ fragments, ∀ entry ∈ fragment.style, isPropertyName entry.1.toList = true) ∨
    ∃ fault, elements tag fragments = .error fault ∧ fault.family = .render ∧
      ∃ fragment ∈ fragments, ∃ entry ∈ fragment.style, isPropertyName entry.1.toList = false := by
  induction fragments with
  | nil => exact .inl ⟨rfl, by simp⟩
  | cons first rest ih =>
    obtain ⟨here, later⟩ := List.forall_mem_cons.mp writable
    rcases checkProperties_cases first.label first.style with
      ⟨checked, named⟩ | ⟨fault, failed, family, entry, listed, improper⟩
    · rcases ih later with ⟨written, others⟩ | ⟨fault, failed, family, fragment, member, improper⟩
      · left
        refine ⟨?_, List.forall_mem_cons.mpr ⟨named, others⟩⟩
        simp only [elements, here.element_eq, checked, written]
        rfl
      · right
        refine ⟨fault, ?_, family, fragment, List.mem_cons_of_mem first member, improper⟩
        simp only [elements, here.element_eq, checked, failed]
        rfl
    · right
      refine ⟨fault, ?_, family, first, List.mem_cons_self, entry, listed, improper⟩
      simp only [elements, here.element_eq, failed]
      rfl

def Renderer.of (cssClass : Option String) (tag : Text) : Renderer :=
  { cssClass := (cssClass.map Datum.text).getD .none, tag }

theorem Renderer.of_writable (cssClass : Option String) (tag : Text) :
    Writable (Renderer.of cssClass tag).options.extra := by
  intro entry listed
  by_cases given : (Renderer.of cssClass tag).cssClass.isTrue = true
  · simp only [options, given, ↓reduceIte, List.mem_singleton] at listed
    subst entry
    cases cssClass with
    | none => simp [Renderer.of, Datum.isTrue] at given
    | some name => exact ⟨show isAttributeName "class".toList = true by decide, rfl⟩
  · simp [options, given] at listed

theorem Renderer.of_fragment {a : Annotator} {styles : StyleSheet} {cssClass : Option String}
    (member : fragment ∈ Fragment.render a styles (Renderer.of cssClass tag).options) :
    Writable fragment.extra ∧ (Element.ofFragment fragment).WellFormed ∧
      fragment.style = (styles.resolve fragment.label).attributes := by
  have made := Fragment.render_mem member
  have writable : Writable fragment.extra := by
    rw [made]
    exact Renderer.of_writable cssClass tag
  have body : IsBody fragment.text := by
    rw [made]
    exact escape_isBody _
  exact ⟨writable, writable.wellFormed body, congrArg Fragment.style made⟩

theorem Renderer.attempt_render {renderer : Renderer} (proper : isTagName renderer.tag = true)
    (desk : Desk) :
    (renderer.render.attempt desk).1 =
      elements renderer.tag (Fragment.render desk.annotator desk.styles renderer.options) := by
  simp only [render, check, proper, ↓reduceIte, Work.attempt_bind, Work.attempt_lift]
  by_cases empty : desk.annotator.text.isEmpty = true
  · simp [Work.attempt, Work.render, empty]
  · simp [Work.attempt, Work.render, empty]

/-- A page consists of one well-formed element for each fragment. It has its bodies from the text alone:
however it is read as a row of well-formed elements, they are what a scan finds, and together they are
the escaped text. There is no page only where some fragment has a property whose name is improper. -/
theorem render_wellFormed {desk : Desk} (handled : desk.annotator.Handled) (cssClass : Option String)
    (proper : isTagName tag = true) :
    let renderer := Renderer.of cssClass tag
    let fragments := Fragment.render desk.annotator desk.styles renderer.options
    let outcome := (renderer.render.attempt desk).1
    (∀ page, outcome = .ok page →
      page = (fragments.map Element.ofFragment).flatMap (Element.write tag) ∧
      (∀ fragment ∈ fragments, (Element.ofFragment fragment).WellFormed) ∧
      (∀ (other : Text) (elements : List Element), isTagName other = true →
        (∀ element ∈ elements, element.WellFormed) → page = elements.flatMap (Element.write other) →
        elements.map Element.body = bodies (.tag false) page) ∧
      (bodies (.tag false) page).flatten = Presentation.escape desk.annotator.text ∧
      Presentation.escape desk.annotator.text = Presentation.escapeInPasses desk.annotator.text) ∧
    ((∃ fault, outcome = .error fault ∧ fault.family = .render) ↔ ∃ fragment ∈ fragments,
      ∃ entry ∈ (desk.styles.resolve fragment.label).attributes, isPropertyName entry.1.toList = false) ∧
    ∀ fault, outcome = .error fault → fault.family = .render := by
  intro renderer fragments outcome
  obtain ⟨slack, _, sound⟩ := handled.sound
  have ran : outcome = elements tag fragments := Renderer.attempt_render proper desk
  have known {fragment : Fragment} (member : fragment ∈ fragments) := Renderer.of_fragment member
  rcases @elements_cases tag fragments fun _ member => (known member).1 with
    ⟨written, named⟩ | ⟨fault, failed, family, fragment, member, entry, listed, improper⟩
  · have wellFormed : ∀ fragment ∈ fragments, (Element.ofFragment fragment).WellFormed :=
      fun _ member => (known member).2.1
    rw [ran, written]
    refine ⟨?_, ?_, by simp⟩
    · rintro page ⟨⟩
      refine ⟨rfl, wellFormed, ?_, ?_, (Presentation.escapeInPasses_eq _).symm⟩
      · intro other elements proper wellFormed same
        rw [same, bodies_elements proper wellFormed]
      · rw [bodies_elements proper (by simpa using wellFormed), List.map_map, ← List.flatMap_def]
        exact Fragment.flatMap_text_eq sound rfl
    · constructor
      · rintro ⟨_, ⟨⟩, _⟩
      · rintro ⟨fragment, member, entry, listed, improper⟩
        rw [← (known member).2.2] at listed
        rw [named fragment member entry listed] at improper
        contradiction
  · rw [ran, failed]
    refine ⟨by simp, ?_, ?_⟩
    · constructor
      · intro _
        rw [(known member).2.2] at listed
        exact ⟨fragment, member, entry, listed, improper⟩
      · intro _
        exact ⟨fault, rfl, family⟩
    · rintro _ ⟨⟩
      exact family

/-- A text with a line break and an angle bracket, and a mark before them whose style has one property. -/
def broken (property : String) : Desk where
  annotator :=
    { Annotator.create {} "k\n<".toList (some false) with
      marks := MarkStore.empty.run [.insert 0 1 "key"] }
  styles := .ofRules [⟨"key", [(property, .text "\">")]⟩]

theorem render_wellFormed_broken :
    (∀ property, (broken property).annotator.Handled) ∧ isTagName "br".toList = true ∧
    (∃ page, ((Renderer.of none "br".toList).render.attempt (broken "color")).1 = .ok page ∧
      page = "<br style=\"color:&quot;&gt;;\">k</br><br><br>&lt;</br>".toList ∧
      (bodies (.tag false) page).flatten = "k<br>&lt;".toList) ∧
    ∃ fault, ((Renderer.of none "br".toList).render.attempt (broken "1")).1 = .error fault ∧
      fault.family = .render := by
  have handled (property : String) : (broken property).annotator.Handled :=
    .edited (.create {} "k\n<".toList (some false)) _
  have proper : isTagName "br".toList = true := by decide
  refine ⟨handled, proper, ⟨_, rfl, by decide +kernel, ?_⟩, ?_⟩
  · exact ((render_wellFormed (handled "color") none proper).1 _ rfl).2.2.2.1
  · apply (render_wellFormed (handled "1") none proper).2.1.mpr
    decide +kernel

end Html

end Highlight
