import TwigRelations.Collection
import TwigRelations.Text.Ranges
import TwigRelations.Text.Segments

/-!
# Logical names of templates

A logical name such as `@App/layout.html.twig` or `FooBundle:Bar:baz.html.twig` keeps the spelling
it was written with. Names are compared by a key that forgets blanks around the name, the kind and
number of separators, a leading `./` and the case of ASCII letters.
-/

namespace TwigRelations

/-- The text without one leading `./`. -/
def dropDotSlash : List Char → List Char
  | '.' :: '/' :: rest => rest
  | cs => cs

/-- The key of a spelling: trimmed, with single forward slashes and single colons, without a leading
`./`, and in lower case. -/
def normalizeChars (cs : List Char) : List Char :=
  let slashed := Text.readAs '\\' '/' (Text.trim cs)
  Text.lowercase (dropDotSlash (Text.collapse ':' (Text.collapse '/' slashed)))

/-- The key of a spelling, as text. -/
def normalize (s : String) : String := String.ofList (normalizeChars s.toList)

/-- A logical name as it was spelled, together with the key that names are compared by. -/
structure LogicalName where
  /-- The spelling. -/
  raw : String
  /-- The key of the spelling. -/
  key : String
  key_eq : key = normalize raw
  deriving DecidableEq

namespace LogicalName

/-- The name with a given spelling. -/
def ofString (raw : String) : LogicalName := ⟨raw, normalize raw, rfl⟩

instance : Identified LogicalName String where
  identity n := n.key

/-- A name that normalizes to the empty key names nothing. -/
def isEmpty (n : LogicalName) : Bool := n.key.isEmpty

/-- Names that are addressed through a bundle: `@Foo/…` or `Foo:dir:file`. -/
def isBundleStyle (n : LogicalName) : Bool :=
  match n.key.toList with
  | '@' :: _ => true
  | cs => cs.contains ':'

/-- Whether a name written in a template means this name. -/
def answersTo (n : LogicalName) (written : String) : Bool :=
  n.raw == written || n.key == normalize written

/-- The order of names by key. -/
def compareKeys (a b : LogicalName) : Ordering := compare a.key b.key

/-- The order in which names are shown: bundle-style names first, then by key, then by spelling. -/
def displayOrder (a b : LogicalName) : Ordering :=
  (compare b.isBundleStyle a.isBundleStyle).then
    ((compare a.key b.key).then (compare a.raw b.raw))

/-- Two names with one spelling are one value: the key adds nothing. -/
@[ext] theorem ext_raw {a b : LogicalName} (h : a.raw = b.raw) : a = b := by
  obtain ⟨ra, ka, ha⟩ := a
  obtain ⟨rb, kb, hb⟩ := b
  simp only at h
  subst h
  simp [ha, hb]

/-- A name keeps the spelling that it is made of. -/
theorem raw_ofString (raw : String) : (ofString raw).raw = raw := rfl

/-- A name is the one with its spelling. -/
@[simp] theorem ofString_raw (n : LogicalName) : ofString n.raw = n := ext_raw (raw_ofString n.raw)

end LogicalName

/-! ## Folded names

The short form in which a name is shown: `@FooBundle/x.html.twig` as `@Foo/x` and
`FooBundle:Bar:x.html.twig` as `Foo:Bar:x`.
-/

/-- The spelling without `.html.twig`, or else without `.twig`. -/
def dropExtension (cs : List Char) : List Char :=
  match Text.dropEnding? ".html.twig".toList cs with
  | some stem => stem
  | none => (Text.dropEnding? ".twig".toList cs).getD cs

/-- The name of a bundle without its ending `Bundle`, if something is left. -/
def shortBundle? (bundle : List Char) : Option (List Char) :=
  (Text.dropEnding? "Bundle".toList bundle).filter (!·.isEmpty)

/-- The stem with its leading bundle shortened, where the bundle ends at a separator. -/
def shortenBundle (sep : Char) (stem : List Char) : List Char :=
  match Text.cut sep stem with
  | some (bundle, path) =>
    match shortBundle? bundle with
    | some short => short ++ sep :: path
    | none => stem
  | none => stem

/-- The folded form of a spelling. -/
def foldChars (cs : List Char) : List Char :=
  match dropExtension cs with
  | '@' :: rest => '@' :: shortenBundle '/' rest
  | stem => shortenBundle ':' stem

/-- The folded form of a spelling, as text. -/
def foldName (s : String) : String := String.ofList (foldChars s.toList)

/-- The label that two templates of one name share: the folded name without regard to case. -/
def LogicalName.labelKey (n : LogicalName) : String :=
  String.ofList (Text.lowercase (foldChars n.raw.toList))

end TwigRelations
