/-
**The attributes of a document.**

A reader of markup goes through a document point by point and knows of each where it stands: between tags,
in the name of an element, in an attribute, in its value. It reports every attribute where that ends. What
is shown between tags or in a value is escaped, so it leaves the reader where it was.

* `Attribute`, `Place`, `Place.step`, `Place.scan`: the reader; `attributes`: all that it reports.
* `isReference`, `references`: the attributes by which elements are found, `id` and `aria-controls`.
* `Place.core`, `Place.scan_core`: what of a place decides which references are found.
* `Leads`: what is referred to in a text that is read from one place to another; `Leads.append`,
  `Leads.literal`, `Leads.shown`, `Leads.value`: texts one after the other, literals, and texts that are
  shown.
-/

import BlockPage.Proofs.Library.Pieces

namespace BlockPage

open CodePoint Library

/-! ### The reader -/

/-- An attribute of an element, with its value as it is written. -/
structure Attribute where
  element : Text
  name : Text
  value : Text
  deriving DecidableEq, Repr

/-- Where a reader of markup stands. -/
inductive Place where
  /-- Between tags. -/
  | content
  /-- Behind what may begin a tag. -/
  | opened
  /-- In a tag without attributes, or in a declaration. -/
  | remark
  /-- In the name of an element. -/
  | tag (name : Text)
  /-- In a tag, in front of an attribute. -/
  | inside (element : Text)
  /-- In the name of an attribute. -/
  | naming (element name : Text)
  /-- Behind the name of an attribute. -/
  | named (element name : Text)
  /-- In front of a value. -/
  | assigned (element name : Text)
  /-- In a value between quotation marks. -/
  | quoted (element name : Text) (mark : CodePoint) (value : Text)
  /-- In a value without quotation marks. -/
  | bare (element name value : Text)
  deriving DecidableEq, Repr

/-- The blanks between attributes. -/
def separatesAttributes (point : CodePoint) : Bool :=
  point == tab || point == newline || point == 0x0C || point == carriageReturn || point == space

/-- One code point further: the attribute that ends there, and where the reader stands. -/
def Place.step (place : Place) (point : CodePoint) : List Attribute × Place :=
  match place with
  | content => if point = lessThan then ([], opened) else ([], content)
  | opened =>
    if isLetter point then ([], tag [toLower point])
    else if point = slash || point = 0x21 || point = 0x3F then ([], remark)
    else if point = lessThan then ([], opened)
    else ([], content)
  | remark => if point = greaterThan then ([], content) else ([], remark)
  | tag name =>
    if separatesAttributes point || point = slash then ([], inside name)
    else if point = greaterThan then ([], content)
    else ([], tag (name ++ [toLower point]))
  | inside element =>
    if separatesAttributes point || point = slash then ([], inside element)
    else if point = greaterThan then ([], content)
    else ([], naming element [toLower point])
  | naming element name =>
    if separatesAttributes point then ([], named element name)
    else if point = slash then ([⟨element, name, []⟩], inside element)
    else if point = greaterThan then ([⟨element, name, []⟩], content)
    else if point = 0x3D then ([], assigned element name)
    else ([], naming element (name ++ [toLower point]))
  | named element name =>
    if separatesAttributes point then ([], named element name)
    else if point = slash then ([⟨element, name, []⟩], inside element)
    else if point = greaterThan then ([⟨element, name, []⟩], content)
    else if point = 0x3D then ([], assigned element name)
    else ([⟨element, name, []⟩], naming element [toLower point])
  | assigned element name =>
    if separatesAttributes point then ([], assigned element name)
    else if point = quotationMark || point = apostrophe then ([], quoted element name point [])
    else if point = greaterThan then ([⟨element, name, []⟩], content)
    else ([], bare element name [point])
  | quoted element name mark value =>
    if point = mark then ([⟨element, name, value⟩], inside element)
    else ([], quoted element name mark (value ++ [point]))
  | bare element name value =>
    if separatesAttributes point then ([⟨element, name, value⟩], inside element)
    else if point = greaterThan then ([⟨element, name, value⟩], content)
    else ([], bare element name (value ++ [point]))

/-- The attributes that end in a text, and where the reader stands behind it. -/
def Place.scan (place : Place) : Text → List Attribute × Place
  | [] => ([], place)
  | first :: rest =>
    let behind := (place.step first).2.scan rest
    ((place.step first).1 ++ behind.1, behind.2)

/-- The attributes of all elements of a document in order. -/
def attributes (document : Text) : List Attribute := (Place.content.scan document).1

example : attributes "a=b <p ID=x hidden class='y z'>c</p>" =
    [⟨"p", "id", "x"⟩, ⟨"p", "hidden", []⟩, ⟨"p", "class", "y z"⟩] := by decide

/-- A scan goes on where it stopped. -/
theorem Place.scan_append (place : Place) (left right : Text) :
    place.scan (left ++ right) =
      ((place.scan left).1 ++ ((place.scan left).2.scan right).1, ((place.scan left).2.scan right).2) := by
  induction left generalizing place with
  | nil => rfl
  | cons first rest ih =>
    rw [List.cons_append, scan, scan, ih]
    simp only [List.append_assoc]

/-! ### References -/

/-- The names of the attributes by which elements are found. -/
def isReference (name : Text) : Bool := name == Text.ofString "id" || name == Text.ofString "aria-controls"

/-- The attribute is one by which elements are found. -/
def Attribute.refers (found : Attribute) : Bool := isReference found.name

/-- The attributes of a document by which elements are found. -/
def references (document : Text) : List Attribute := (attributes document).filter Attribute.refers

/-- Where the reader stands, without a value that is no reference. -/
def Place.core : Place → Place
  | quoted element name mark value =>
    if isReference name then quoted element name mark value else quoted element name mark []
  | bare element name value =>
    if isReference name then bare element name value else bare element name []
  | place => place

/-- The references that a reader finds do not depend on values that are none. -/
theorem Place.step_core (place : Place) (point : CodePoint) :
    (place.core.step point).1.filter Attribute.refers = (place.step point).1.filter Attribute.refers ∧
      (place.core.step point).2.core = (place.step point).2.core := by
  cases place with
  | quoted element name mark value =>
    by_cases reference : isReference name
    · simp only [core, if_pos reference, and_self]
    · by_cases ends : point = mark <;> simp [core, step, Attribute.refers, reference, ends]
  | bare element name value =>
    by_cases reference : isReference name
    · simp only [core, if_pos reference, and_self]
    · simp only [core, step, if_neg reference]
      split_ifs <;> simp [Attribute.refers, reference]
  | _ => exact ⟨rfl, rfl⟩

/-- Two places of one core find the same references and stay alike. -/
theorem Place.scan_core (text : Text) : ∀ {place other : Place}, place.core = other.core →
    (place.scan text).1.filter Attribute.refers = (other.scan text).1.filter Attribute.refers ∧
      (place.scan text).2.core = (other.scan text).2.core := by
  induction text with
  | nil => exact fun same => ⟨rfl, same⟩
  | cons first rest ih =>
    intro place other same
    obtain ⟨found, next⟩ := place.step_core first
    obtain ⟨found', next'⟩ := other.step_core first
    obtain ⟨further, last⟩ := ih (next.symm.trans (same ▸ next'))
    refine ⟨?_, last⟩
    rw [scan, scan, List.filter_append, List.filter_append, further, ← found, same, found']

/-! ### From one place to another -/

/-- Read from one place to another, a text has these references. -/
def Leads (start : Place) (text : Text) (found : List Attribute) (stop : Place) : Prop :=
  (start.scan text).1.filter Attribute.refers = found ∧ (start.scan text).2.core = stop.core

instance (start : Place) (text : Text) (found : List Attribute) (stop : Place) :
    Decidable (Leads start text found stop) :=
  inferInstanceAs (Decidable (_ ∧ _))

/-- A document has the references that a reader finds in it. -/
theorem Leads.references {document : Text} {found : List Attribute} {stop : Place}
    (leads : Leads .content document found stop) : references document = found :=
  leads.1

/-- No text leads nowhere. -/
theorem Leads.nil (place : Place) : Leads place [] [] place := ⟨rfl, rfl⟩

/-- Texts lead one behind the other. -/
theorem Leads.append {start between stop : Place} {left right : Text} {found further : List Attribute}
    (here : Leads start left found between) (behind : Leads between right further stop) :
    Leads start (left ++ right) (found ++ further) stop := by
  obtain ⟨same, last⟩ := Place.scan_core right here.2
  refine ⟨?_, ?_⟩
  · rw [Place.scan_append, List.filter_append, here.1, same, behind.1]
  · rw [Place.scan_append, last, behind.2]

/-- A literal is read character by character. -/
theorem Leads.literal {start stop : Place} {written : String} {characters : List Char}
    {found : List Attribute} (same : written = String.ofList characters)
    (leads : Leads start (characters.map Char.toNat) found stop) :
    Leads start (Text.ofString written) found stop := by
  rwa [same, Text.ofString_ofList]

/-! ### Texts that are shown -/

/-- Text without a tag stays content. -/
theorem Place.scan_content {text : Text} (untagged : lessThan ∉ text) :
    Place.content.scan text = ([], .content) := by
  induction text with
  | nil => rfl
  | cons first rest ih =>
    rw [List.mem_cons, not_or] at untagged
    rw [scan, step, if_neg (Ne.symm untagged.1), ih untagged.2]
    rfl

/-- Text without the quote stays in the value. -/
theorem Place.scan_quoted {element name : Text} {mark : CodePoint} {text : Text} (unquoted : mark ∉ text) :
    ∀ value, (quoted element name mark value).scan text =
      ([], .quoted element name mark (value ++ text)) := by
  induction text with
  | nil =>
    intro value
    rw [scan, List.append_nil]
  | cons first rest ih =>
    intro value
    rw [List.mem_cons, not_or] at unquoted
    rw [scan, step, if_neg (Ne.symm unquoted.1), ih unquoted.2, List.append_assoc]
    rfl

/-- What is shown between tags begins none. -/
theorem Leads.shown (text : Text) : Leads .content (Text.escape text) [] .content := by
  rw [Leads, Place.scan_content (Text.mark_not_mem_escape (by decide) text)]
  exact ⟨rfl, rfl⟩

/-- What is shown in a value does not end it. -/
theorem Leads.value (element name value text : Text) :
    Leads (.quoted element name quotationMark value) (Text.escape text) []
      (.quoted element name quotationMark (value ++ Text.escape text)) := by
  rw [Leads, Place.scan_quoted (Text.mark_not_mem_escape (by decide) text)]
  exact ⟨rfl, rfl⟩

end BlockPage
