import OpenvpnConnect.Text.Lemmas
import OpenvpnConnect.Tls.Policy
import Mathlib.Data.List.Infix

namespace OpenvpnConnect.Tls

open Text

-- What the name of an attribute type is written with.
def isTypeChar (c : Char) : Bool := !([' ', ',', '+', '='].contains c)

-- The name of an attribute type as x509-parser prints it.
structure AttributeType where
  text : Str
  some_char : text ≠ []
  plain : ∀ c ∈ text, isTypeChar c = true
deriving DecidableEq

@[ext]
structure Attribute where
  type : AttributeType
  value : Str
deriving DecidableEq

-- An RDN has one attribute at least.
@[ext]
structure Rdn where
  first : Attribute
  others : List Attribute
deriving DecidableEq

abbrev DistinguishedName := List Rdn

def joined (separator : Str) : List Str → Str
  | [] => []
  | first :: rest => first ++ rest.flatMap (separator ++ ·)

-- The Display of x509-parser, which escapes nothing.
def Attribute.text (attr : Attribute) : Str := attr.type.text ++ '=' :: attr.value

def Rdn.attributes (rdn : Rdn) : List Attribute :=
  rdn.first :: rdn.others

def Rdn.text (rdn : Rdn) : Str :=
  joined " + ".toList (rdn.attributes.map Attribute.text)

def subjectText (name : DistinguishedName) : Str :=
  joined ", ".toList (name.map Rdn.text)

def attributesOf (name : DistinguishedName) : List Attribute :=
  name.flatMap Rdn.attributes

-- The two separators.
inductive Joint
  | Between
  | Within
deriving DecidableEq

def Joint.text : Joint → Str
  | .Between => ", ".toList
  | .Within => " + ".toList

-- The text goes on like a further attribute.
def startsAttribute (text : Str) : Bool :=
  [Joint.Between, Joint.Within].any fun joint =>
    match stripPrefix joint.text text with
    | none => false
    | some rest => !(rest.takeWhile isTypeChar).isEmpty && (rest.dropWhile isTypeChar).head? == some '='

-- Somewhere in the value there is what reads like a further attribute.
def hidesAttribute (value : Str) : Bool := value.tails.any startsAttribute

section Parts

-- An attribute with the separator before it.
abbrev Part := Joint × Attribute

def Part.text (part : Part) : Str := part.1.text ++ part.2.text

def within (attributes : List Attribute) : List Part := attributes.map (Joint.Within, ·)

def between (rdns : List Rdn) : List Part :=
  rdns.flatMap fun rdn => (Joint.Between, rdn.first) :: within rdn.others

-- What follows the first attribute.
def Rdn.partsBefore (rdn : Rdn) (rest : List Rdn) :
    List Part :=
  within rdn.others ++ between rest

def textOf (parts : List Part) : Str := parts.flatMap Part.text

theorem textOf_within (attributes : List Attribute) :
    textOf (within attributes) = (attributes.map Attribute.text).flatMap (" + ".toList ++ ·) := by
  rw [textOf, within, List.flatMap_map, List.flatMap_map]
  rfl

theorem text_eq_parts (rdn : Rdn) : rdn.text = rdn.first.text ++ textOf (within rdn.others) := by
  rw [textOf_within]
  rfl

theorem textOf_between (rdns : List Rdn) :
    textOf (between rdns) = (rdns.map Rdn.text).flatMap (", ".toList ++ ·) := by
  induction rdns with
  | nil => rfl
  | cons rdn rest ih =>
      rw [List.map_cons, List.flatMap_cons, ← ih, text_eq_parts]
      simp [textOf, between, Part.text, Joint.text, List.flatMap_append]

theorem subjectText_cons (rdn : Rdn) (rest : List Rdn) :
    subjectText (rdn :: rest) = rdn.first.text ++ textOf (rdn.partsBefore rest) := by
  rw [subjectText, List.map_cons, joined, ← textOf_between, text_eq_parts, Rdn.partsBefore, textOf, textOf, textOf,
    List.flatMap_append, List.append_assoc]

theorem within_append_inj {attrs others : List Attribute} {rest more : List Rdn}
    (he : within attrs ++ between rest = within others ++ between more) :
    attrs = others ∧ between rest = between more := by
  induction attrs generalizing others with
  | nil =>
      cases others with
      | nil => exact ⟨rfl, he⟩
      | cons other others =>
          cases rest with
          | nil => cases he
          | cons rdn rest => cases he
  | cons attr attrs ih =>
      cases others with
      | nil =>
          cases more with
          | nil => cases he
          | cons rdn more => cases he
      | cons other others =>
          obtain ⟨hattr, he⟩ := List.cons.inj he
          obtain ⟨hattrs, hrest⟩ := ih he
          exact ⟨by rw [(Prod.mk.inj hattr).2, hattrs], hrest⟩

-- The separators show where an RDN ends.
theorem between_inj {rest more : List Rdn} (he : between rest = between more) : rest = more := by
  induction rest generalizing more with
  | nil =>
      cases more with
      | nil => rfl
      | cons rdn more => cases he
  | cons rdn rest ih =>
      cases more with
      | nil => cases he
      | cons other more =>
          simp only [between, List.flatMap_cons, List.cons_append] at he
          obtain ⟨hfirst, he⟩ := List.cons.inj he
          obtain ⟨hothers, he⟩ := within_append_inj he
          rw [Rdn.ext (Prod.mk.inj hfirst).2 hothers, ih he]

end Parts

section Openings

-- A separator, an attribute type and an equals sign.
def Opens (text : Str) : Prop :=
  ∃ (joint : Joint) (type : AttributeType) (rest : Str), text = joint.text ++ type.text ++ '=' :: rest

theorem type_inj {type other : AttributeType} {value more : Str}
    (he : type.text ++ '=' :: value = other.text ++ '=' :: more) : type = other ∧ value = more := by
  have hstop : isTypeChar '=' = false := by decide
  have htake : ∀ (type : AttributeType) (value : Str),
      (type.text ++ '=' :: value).takeWhile isTypeChar = type.text := by
    intro type value
    rw [List.takeWhile_append_of_pos type.plain, List.takeWhile_cons, hstop]
    simp
  have htext : type.text = other.text := by rw [← htake type value, he, htake]
  rw [htext] at he
  refine ⟨?_, (List.cons.inj (List.append_cancel_left he)).2⟩
  cases type
  cases other
  cases htext
  rfl

theorem type_then_equals (rest : Str) :
    (!(rest.takeWhile isTypeChar).isEmpty && (rest.dropWhile isTypeChar).head? == some '=') = true ↔
      ∃ (type : AttributeType) (more : Str), rest = type.text ++ '=' :: more := by
  have hstop : isTypeChar '=' = false := by decide
  simp only [Bool.and_eq_true, Bool.not_eq_true', List.isEmpty_eq_false_iff, beq_iff_eq]
  constructor
  · rintro ⟨hsome, hequals⟩
    refine ⟨⟨rest.takeWhile isTypeChar, hsome, List.all_eq_true.mp List.all_takeWhile⟩,
      (rest.dropWhile isTypeChar).tail, ?_⟩
    rw [List.cons_head?_tail hequals]
    exact List.takeWhile_append_dropWhile.symm
  · rintro ⟨type, more, rfl⟩
    rw [List.takeWhile_append_of_pos type.plain, List.dropWhile_append_of_pos type.plain, List.takeWhile_cons,
      List.dropWhile_cons, hstop]
    simp [type.some_char]

theorem startsAttribute_iff (text : Str) : startsAttribute text = true ↔ Opens text := by
  have hjoint : ∀ joint : Joint,
      (match stripPrefix joint.text text with
        | none => false
        | some rest =>
            !(rest.takeWhile isTypeChar).isEmpty && (rest.dropWhile isTypeChar).head? == some '=') = true ↔
      ∃ (type : AttributeType) (more : Str), text = joint.text ++ type.text ++ '=' :: more := by
    intro joint
    cases hstrip : stripPrefix joint.text text with
    | none =>
        simp only [Bool.false_eq_true, false_iff, not_exists]
        rintro type more rfl
        rw [List.append_assoc, stripPrefix_append] at hstrip
        cases hstrip
    | some rest =>
        obtain rfl := stripPrefix_eq_some.mp hstrip
        simp only [type_then_equals, List.append_assoc, List.append_cancel_left_eq]
  simp only [startsAttribute, List.any_cons, List.any_nil, Bool.or_false, Bool.or_eq_true, hjoint]
  constructor
  · rintro (⟨type, more, he⟩ | ⟨type, more, he⟩)
    · exact ⟨.Between, type, more, he⟩
    · exact ⟨.Within, type, more, he⟩
  · rintro ⟨joint, type, more, he⟩
    cases joint with
    | Between => exact .inl ⟨type, more, he⟩
    | Within => exact .inr ⟨type, more, he⟩

theorem opens_cases {text : Str} (hopens : Opens text) :
    (∃ more, text = ',' :: ' ' :: more) ∨ ∃ more, text = ' ' :: '+' :: more := by
  obtain ⟨joint, type, rest, rfl⟩ := hopens
  cases joint with
  | Between => exact .inl ⟨_, rfl⟩
  | Within => exact .inr ⟨_, rfl⟩

-- No attribute opens within a type or at its equals sign.
theorem not_opens_in_type (type : AttributeType) {before inside rest : Str}
    (he : type.text ++ ['='] = before ++ inside) (hsome : inside ≠ []) : ¬Opens (inside ++ rest) := by
  intro hopens
  obtain ⟨c, more, rfl⟩ := List.exists_cons_of_ne_nil hsome
  have hmem : c ∈ type.text ++ ['='] := by
    rw [he]
    simp
  have hc : c ≠ ',' ∧ c ≠ ' ' := by
    rcases List.mem_append.mp hmem with htype | hequals
    · have hplain := type.plain c htype
      constructor
      · rintro rfl
        exact absurd hplain (by decide)
      · rintro rfl
        exact absurd hplain (by decide)
    · rw [List.mem_singleton] at hequals
      subst hequals
      decide
  rcases opens_cases hopens with ⟨_, hcomma⟩ | ⟨_, hspace⟩
  · exact hc.1 (List.cons.inj hcomma).1
  · exact hc.2 (List.cons.inj hspace).1

theorem head_ne_plus (type : AttributeType) (rest : Str) : ∀ more, type.text ++ '=' :: rest ≠ '+' :: more := by
  intro more he
  obtain ⟨c, others, hcons⟩ := List.exists_cons_of_ne_nil type.some_char
  rw [hcons] at he
  obtain ⟨rfl, _⟩ := List.cons.inj he
  have hplain := type.plain '+' (by rw [hcons]; exact List.mem_cons_self)
  exact absurd hplain (by decide)

theorem not_opens_at_space (type : AttributeType) {before inside rest : Str}
    (he : ' ' :: (type.text ++ ['=']) = before ++ inside) (hsome : inside ≠ []) : ¬Opens (inside ++ rest) := by
  cases before with
  | nil =>
      intro hopens
      rw [← List.nil_append inside, ← he] at hopens
      rcases opens_cases hopens with ⟨_, hcomma⟩ | ⟨more, hspace⟩
      · exact absurd (List.cons.inj hcomma).1 (by decide)
      · apply head_ne_plus type rest more
        have htail := (List.cons.inj hspace).2
        simpa using htail
  | cons c before => exact not_opens_in_type type (List.cons.inj he).2 hsome

-- Nor anywhere else inside an opening.
theorem not_opens_inside {joint : Joint} {type : AttributeType} {before inside rest : Str}
    (he : joint.text ++ type.text ++ ['='] = before ++ inside) (hbefore : before ≠ []) (hsome : inside ≠ []) :
    ¬Opens (inside ++ rest) := by
  obtain ⟨c, before, rfl⟩ := List.exists_cons_of_ne_nil hbefore
  cases joint with
  | Between => exact not_opens_at_space type (List.cons.inj he).2 hsome
  | Within =>
      have hinside : '+' :: ' ' :: (type.text ++ ['=']) = before ++ inside := (List.cons.inj he).2
      cases before with
      | nil =>
          intro hopens
          rw [← List.nil_append inside, ← hinside] at hopens
          rcases opens_cases hopens with ⟨_, hcomma⟩ | ⟨_, hspace⟩
          · exact absurd (List.cons.inj hcomma).1 (by decide)
          · exact absurd (List.cons.inj hspace).1 (by decide)
      | cons d before => exact not_opens_at_space type (List.cons.inj hinside).2 hsome

theorem hidesAttribute_iff (value : Str) :
    hidesAttribute value = true ↔ ∃ before opening, value = before ++ opening ∧ Opens opening := by
  simp only [hidesAttribute, List.any_eq_true, List.mem_tails, startsAttribute_iff]
  constructor
  · rintro ⟨opening, ⟨before, rfl⟩, hopens⟩
    exact ⟨before, opening, rfl, hopens⟩
  · rintro ⟨before, opening, rfl, hopens⟩
    exact ⟨opening, List.suffix_append before opening, hopens⟩

-- A value that hides nothing is not longer than up to the next opening.
theorem nil_of_value_append {value beyond rest more : Str} (hplain : hidesAttribute (value ++ beyond) = false)
    (hrest : rest = [] ∨ Opens rest) (hmore : more = [] ∨ Opens more) (he : rest = beyond ++ more) :
    beyond = [] := by
  by_contra hbeyond
  rcases hrest with rfl | ⟨joint, type, after, rfl⟩
  · exact hbeyond (List.append_eq_nil_iff.mp he.symm).1
  · have hopening : joint.text ++ type.text ++ '=' :: after = joint.text ++ type.text ++ ['='] ++ after := by simp
    rw [hopening] at he
    rcases List.append_eq_append_iff.mp he with ⟨inside, rfl, rfl⟩ | ⟨inside, hinside, rfl⟩
    · have hhides : hidesAttribute (value ++ (joint.text ++ type.text ++ ['='] ++ inside)) = true :=
        (hidesAttribute_iff _).mpr ⟨value, _, rfl, joint, type, inside, by simp⟩
      rw [hhides] at hplain
      cases hplain
    · cases inside with
      | nil =>
          rw [List.append_nil] at hinside
          have hhides : hidesAttribute (value ++ beyond) = true :=
            (hidesAttribute_iff _).mpr ⟨value, beyond, rfl, joint, type, [], hinside.symm⟩
          rw [hhides] at hplain
          cases hplain
      | cons c inside =>
          rcases hmore with hnil | hopens
          · cases hnil
          · exact not_opens_inside hinside hbeyond (List.cons_ne_nil c inside) hopens

theorem value_inj {value other rest more : Str} (hvalue : hidesAttribute value = false)
    (hother : hidesAttribute other = false) (hrest : rest = [] ∨ Opens rest) (hmore : more = [] ∨ Opens more)
    (he : value ++ rest = other ++ more) : value = other ∧ rest = more := by
  rcases List.append_eq_append_iff.mp he with ⟨beyond, rfl, hbeyond⟩ | ⟨beyond, rfl, hbeyond⟩
  · obtain rfl := nil_of_value_append hother hrest hmore hbeyond
    exact ⟨(List.append_nil value).symm, hbeyond⟩
  · obtain rfl := nil_of_value_append hvalue hmore hrest hbeyond
    exact ⟨List.append_nil other, hbeyond.symm⟩

theorem textOf_opens (parts : List Part) : textOf parts = [] ∨ Opens (textOf parts) := by
  cases parts with
  | nil => exact .inl rfl
  | cons part parts =>
      right
      refine ⟨part.1, part.2.type, part.2.value ++ textOf parts, ?_⟩
      simp [textOf, Part.text, Attribute.text]

theorem joint_inj {joint other : Joint} {rest more : Str} (he : joint.text ++ rest = other.text ++ more) :
    joint = other ∧ rest = more := by
  cases joint with
  | Between =>
      cases other with
      | Between => exact ⟨rfl, List.append_cancel_left he⟩
      | Within => exact absurd (List.cons.inj he).1 (by decide)
  | Within =>
      cases other with
      | Between => exact absurd (List.cons.inj he).1 (by decide)
      | Within => exact ⟨rfl, List.append_cancel_left he⟩

-- The text determines the attributes and the separators before them, where the
-- values hide nothing.
theorem parts_inj {value other : Str} {parts more : List Part} (hvalue : hidesAttribute value = false)
    (hother : hidesAttribute other = false) (hparts : ∀ part ∈ parts, hidesAttribute part.2.value = false)
    (hmore : ∀ part ∈ more, hidesAttribute part.2.value = false)
    (he : value ++ textOf parts = other ++ textOf more) : value = other ∧ parts = more := by
  induction parts generalizing value other more with
  | nil =>
      obtain ⟨hsame, hnil⟩ := value_inj hvalue hother (textOf_opens []) (textOf_opens more) he
      cases more with
      | nil => exact ⟨hsame, rfl⟩
      | cons part more =>
          have hlength := congrArg List.length hnil
          simp [textOf, Part.text, Attribute.text] at hlength
  | cons part parts ih =>
      obtain ⟨hsame, hrest⟩ := value_inj hvalue hother (textOf_opens (part :: parts)) (textOf_opens more) he
      cases more with
      | nil =>
          have hlength := congrArg List.length hrest
          simp [textOf, Part.text, Attribute.text] at hlength
      | cons next more =>
          obtain ⟨joint, attr⟩ := part
          obtain ⟨nextJoint, nextAttr⟩ := next
          simp only [textOf, List.flatMap_cons, Part.text, Attribute.text, List.append_assoc,
            List.cons_append] at hrest
          obtain ⟨hjoint, hrest⟩ := joint_inj hrest
          obtain ⟨htype, hrest⟩ := type_inj hrest
          obtain ⟨hattr, hparts⟩ := List.forall_mem_cons.mp hparts
          obtain ⟨hnext, hmore⟩ := List.forall_mem_cons.mp hmore
          obtain ⟨hvalues, hlast⟩ := ih hattr hnext hparts hmore hrest
          refine ⟨hsame, ?_⟩
          rw [hjoint, Attribute.ext htype hvalues, hlast]

end Openings

section Identity

theorem mem_attributesOf_parts {rdn : Rdn} {rest : List Rdn} {part : Part}
    (hpart : part ∈ rdn.partsBefore rest) : part.2 ∈ attributesOf (rdn :: rest) := by
  rw [attributesOf, List.flatMap_cons]
  rcases List.mem_append.mp hpart with hwithin | hbetween
  · obtain ⟨attr, hattr, rfl⟩ := List.mem_map.mp hwithin
    exact List.mem_append_left _ (List.mem_cons_of_mem _ hattr)
  · obtain ⟨next, hnext, hmem⟩ := List.mem_flatMap.mp hbetween
    apply List.mem_append_right
    refine List.mem_flatMap.mpr ⟨next, hnext, ?_⟩
    rcases List.mem_cons.mp hmem with rfl | hmem
    · exact List.mem_cons_self
    · obtain ⟨attr, hattr, rfl⟩ := List.mem_map.mp hmem
      exact List.mem_cons_of_mem _ hattr

theorem subjectText_ne_nil (rdn : Rdn) (rest : List Rdn) :
    subjectText (rdn :: rest) ≠ [] := by
  intro hnil
  rw [subjectText_cons, Attribute.text] at hnil
  simp at hnil

theorem textOf_eq_nil {parts : List Part} (hnil : textOf parts = []) : parts = [] := by
  cases parts with
  | nil => rfl
  | cons part parts => simp [textOf, Part.text, Attribute.text] at hnil

-- The text determines the name, where the values hide nothing.
theorem subjectText_inj {name other : DistinguishedName}
    (hname : ∀ attr ∈ attributesOf name, hidesAttribute attr.value = false)
    (hother : ∀ attr ∈ attributesOf other, hidesAttribute attr.value = false)
    (he : subjectText name = subjectText other) : name = other := by
  cases name with
  | nil =>
      cases other with
      | nil => rfl
      | cons rdn rest => exact absurd he.symm (subjectText_ne_nil rdn rest)
  | cons rdn rest =>
      cases other with
      | nil => exact absurd he (subjectText_ne_nil rdn rest)
      | cons next more =>
          rw [subjectText_cons, subjectText_cons, Attribute.text, Attribute.text, List.append_assoc,
            List.append_assoc, List.cons_append, List.cons_append] at he
          obtain ⟨htype, he⟩ := type_inj he
          obtain ⟨hvalue, hparts⟩ := parts_inj (hname rdn.first List.mem_cons_self)
            (hother next.first List.mem_cons_self)
            (fun part hpart => hname part.2 (mem_attributesOf_parts hpart))
            (fun part hpart => hother part.2 (mem_attributesOf_parts hpart)) he
          obtain ⟨hothers, hbetween⟩ := within_append_inj hparts
          rw [Rdn.ext (Attribute.ext htype hvalue) hothers, between_inj hbetween]

-- All in one value.
def folded (rdn : Rdn) (rest : List Rdn) : DistinguishedName :=
  [⟨⟨rdn.first.type, rdn.first.value ++ textOf (rdn.partsBefore rest)⟩, []⟩]

theorem subjectText_folded (rdn : Rdn) (rest : List Rdn) :
    subjectText (folded rdn rest) = subjectText (rdn :: rest) := by
  rw [folded, subjectText_cons, subjectText_cons]
  simp [Attribute.text, Rdn.partsBefore, within, between, textOf]

-- A value cut at what it hides.
def cutAt (joint : Joint) (first second : Attribute) : DistinguishedName :=
  match joint with
  | .Between => [⟨first, []⟩, ⟨second, []⟩]
  | .Within => [⟨first, [second]⟩]

theorem subjectText_cutAt (joint : Joint) (first second : Attribute) :
    subjectText (cutAt joint first second) = first.text ++ (joint.text ++ second.text) := by
  cases joint with
  | Between => simp [cutAt, subjectText, Rdn.text, Rdn.attributes, joined, Joint.text]
  | Within => simp [cutAt, subjectText, Rdn.text, Rdn.attributes, joined, Joint.text]

theorem single_of_length {rdn : Rdn} {rest : List Rdn}
    (hlength : (attributesOf (rdn :: rest)).length ≤ 1) : rdn.others = [] ∧ rest = [] := by
  rw [attributesOf, List.flatMap_cons, Rdn.attributes] at hlength
  simp only [List.length_append, List.length_cons] at hlength
  refine ⟨List.length_eq_zero_iff.mp (by omega), ?_⟩
  cases rest with
  | nil => rfl
  | cons next more =>
      rw [List.flatMap_cons, List.length_append, Rdn.attributes, List.length_cons] at hlength
      omega

-- Every name of several attributes, or with a value that hides one, has the
-- text of another name.
theorem exists_other_name {name : DistinguishedName}
    (hname : ¬((attributesOf name).length ≤ 1 ∧ ∀ attr ∈ attributesOf name, hidesAttribute attr.value = false)) :
    ∃ other, other ≠ name ∧ subjectText other = subjectText name := by
  cases name with
  | nil => exact absurd ⟨Nat.zero_le 1, nofun⟩ hname
  | cons rdn rest =>
      by_cases hlength : (attributesOf (rdn :: rest)).length ≤ 1
      · have hnames := single_of_length hlength
        obtain ⟨⟨⟨type, value⟩, others⟩, rfl⟩ : ∃ same, rdn = same := ⟨rdn, rfl⟩
        obtain ⟨rfl, rfl⟩ := hnames
        have hhides : hidesAttribute value = true := by
          by_contra hplain
          refine hname ⟨hlength, fun attr hattr => ?_⟩
          obtain rfl : attr = ⟨type, value⟩ := List.mem_singleton.mp hattr
          exact Bool.eq_false_iff.mpr hplain
        obtain ⟨before, opening, rfl, joint, hidden, after, rfl⟩ := (hidesAttribute_iff value).mp hhides
        refine ⟨cutAt joint ⟨type, before⟩ ⟨hidden, after⟩, ?_, ?_⟩
        · cases joint with
          | Between => simp [cutAt]
          | Within => simp [cutAt]
        · rw [subjectText_cutAt, subjectText_cons]
          simp [Attribute.text, Rdn.partsBefore, within, between, textOf]
      · refine ⟨folded rdn rest, ?_, subjectText_folded rdn rest⟩
        intro he
        rw [← he] at hlength
        exact hlength (Nat.le_refl 1)

-- A single attribute with a value that hides none is read in one way.
theorem eq_of_single {name other : DistinguishedName} (hlength : (attributesOf name).length ≤ 1)
    (hplain : ∀ attr ∈ attributesOf name, hidesAttribute attr.value = false)
    (he : subjectText other = subjectText name) : other = name := by
  cases name with
  | nil =>
      cases other with
      | nil => rfl
      | cons next more => exact absurd he (subjectText_ne_nil next more)
  | cons rdn rest =>
      obtain ⟨hothers, rfl⟩ := single_of_length hlength
      cases other with
      | nil => exact absurd he.symm (subjectText_ne_nil rdn [])
      | cons next more =>
          have hnone : textOf (rdn.partsBefore []) = [] := by
            rw [Rdn.partsBefore, hothers]
            rfl
          rw [subjectText_cons, subjectText_cons, hnone, Attribute.text, Attribute.text, List.append_nil,
            List.append_assoc, List.cons_append] at he
          obtain ⟨htype, hvalue⟩ := type_inj he
          have hno : textOf (next.partsBefore more) = [] := by
            rcases textOf_opens (next.partsBefore more) with hnil | hopens
            · exact hnil
            · have hhides := (hidesAttribute_iff rdn.first.value).mpr ⟨_, _, hvalue.symm, hopens⟩
              rw [hplain rdn.first List.mem_cons_self] at hhides
              cases hhides
          obtain ⟨hmap, hbetween⟩ := List.append_eq_nil_iff.mp (textOf_eq_nil hno)
          have hmore : more = [] := between_inj hbetween
          rw [hno, List.append_nil] at hvalue
          rw [hmore, Rdn.ext (Attribute.ext htype hvalue)
            ((List.map_eq_nil_iff.mp hmap).trans hothers.symm)]

theorem verifyName_subject_dn {policy : CertificatePolicy}
    (hmode : policy.verifyX509NameMode = VERIFY_X509_SUBJECT_DN) (certificate : Certificate) :
    policy.verifyName certificate = .ok () ↔ certificate.subject = policy.verifyX509Name := by
  have hnone : VERIFY_X509_SUBJECT_DN ≠ VERIFY_X509_NONE := by decide
  rw [CertificatePolicy.verifyName, hmode]
  by_cases hsame : policy.verifyX509Name = certificate.subject
  · simp [hnone, hsame]
    rfl
  · simp only [if_neg hnone]
    simp [hsame, Ne.symm hsame]

-- Two certificates that pass the check of the subject have one name, unless a
-- value of theirs hides an attribute; and a name is the only one that passes
-- exactly if it is a single attribute with a value that hides none.
theorem subject_dn_identifies {policy : CertificatePolicy}
    (hmode : policy.verifyX509NameMode = VERIFY_X509_SUBJECT_DN) {certificate : Certificate}
    {intended : DistinguishedName} (hsubject : certificate.subject = subjectText intended)
    (haccepted : policy.verifyName certificate = .ok ()) :
    (∀ (other : Certificate) (name : DistinguishedName), other.subject = subjectText name →
      policy.verifyName other = .ok () → name ≠ intended →
      ∃ attr ∈ attributesOf intended ++ attributesOf name, hidesAttribute attr.value = true) ∧
    ((∀ (other : Certificate) (name : DistinguishedName), other.subject = subjectText name →
      policy.verifyName other = .ok () → name = intended) ↔
      (attributesOf intended).length ≤ 1 ∧ ∀ attr ∈ attributesOf intended, hidesAttribute attr.value = false) := by
  have hname := (verifyName_subject_dn hmode certificate).mp haccepted
  have htext : ∀ {other : Certificate} {name : DistinguishedName}, other.subject = subjectText name →
      policy.verifyName other = .ok () → subjectText name = subjectText intended := by
    intro other name hother hok
    rw [← hother, (verifyName_subject_dn hmode other).mp hok, ← hname, hsubject]
  constructor
  · intro other name hother hok hne
    by_contra hplain
    have hfree : ∀ attr ∈ attributesOf intended ++ attributesOf name, hidesAttribute attr.value = false :=
      fun attr hattr => Bool.eq_false_iff.mpr fun hhides => hplain ⟨attr, hattr, hhides⟩
    exact hne (subjectText_inj (fun attr hattr => hfree attr (List.mem_append_right _ hattr))
      (fun attr hattr => hfree attr (List.mem_append_left _ hattr)) (htext hother hok))
  · constructor
    · intro honly
      by_contra hseveral
      obtain ⟨other, hne, he⟩ := exists_other_name hseveral
      exact hne (honly certificate other (hsubject.trans he.symm) haccepted)
    · rintro ⟨hlength, hplain⟩ other name hother hok
      exact eq_of_single hlength hplain (htext hother hok)

def organization : AttributeType := ⟨['O'], List.cons_ne_nil _ _, List.all_eq_true.mp rfl⟩
def commonNameType : AttributeType := ⟨['C', 'N'], List.cons_ne_nil _ _, List.all_eq_true.mp rfl⟩

def intendedName : DistinguishedName :=
  [⟨⟨organization, "Example".toList⟩, []⟩, ⟨⟨commonNameType, "vpn".toList⟩, []⟩]

-- An organization with a separator in its name.
def forgedName : DistinguishedName := [⟨⟨organization, "Example, CN=vpn".toList⟩, []⟩]

def namedCertificate (name : DistinguishedName) : Certificate := ⟨[], subjectText name, [], .ok none, .ok none⟩

def subjectPolicy : CertificatePolicy :=
  ⟨NS_CERT_NONE, [], [], [], VERIFY_X509_SUBJECT_DN, "O=Example, CN=vpn".toList⟩

theorem forged_name_accepted : subjectPolicy.validate = .ok () ∧ forgedName ≠ intendedName ∧
    subjectPolicy.verify .ok (namedCertificate intendedName) = .ok () ∧
    subjectPolicy.verify .ok (namedCertificate forgedName) = .ok () := by
  refine ⟨by decide, by decide, by decide, by decide⟩

theorem subject_dn_identifies_vpn :
    subjectPolicy.verifyName (namedCertificate forgedName) = .ok () ∧
      ∃ attr ∈ attributesOf intendedName ++ attributesOf forgedName, hidesAttribute attr.value = true := by
  have hforged : subjectPolicy.verifyName (namedCertificate forgedName) = .ok () := by decide
  have hidentifies := @subject_dn_identifies subjectPolicy rfl (namedCertificate intendedName) intendedName rfl
    (by decide)
  exact ⟨hforged, hidentifies.1 (namedCertificate forgedName) forgedName rfl hforged (by decide)⟩

end Identity

end OpenvpnConnect.Tls
