/-!
# Topography classes

The ground surface around a site is classified by two independent
schemes. Scheme A grades slopes and ridges by their inclination; scheme B
names the position on the relief. Both are closed sets of tags: a finite
type whose members are each written as one word. `members` lists them in
declaration order, `tag` writes one, and `ofTag?` reads back exactly the
texts that `tag` writes.
-/

namespace SeismicSite

/-! ## Closed sets of tags -/

/-- A finite set of members, each written as a tag of its own, together
with the field whose values the set closes. -/
class TagSet (α : Type) where
  /-- Every member, in declaration order. -/
  members : List α
  /-- The text that stands for a member. -/
  tag : α → String
  /-- The text that a member is written as in JSON. -/
  written : α → String
  /-- The field that takes these tags. -/
  field : String

namespace TagSet

/-- The tags of every member, in declaration order. -/
def tags (α : Type) [TagSet α] : List String :=
  (members : List α).map tag

/-- The member whose tag is exactly `text`. -/
def ofTag? {α : Type} [TagSet α] (text : String) : Option α :=
  members.find? fun member => tag member == text

end TagSet

/-! ## The two schemes -/

/-- Scheme A: slopes and ridges by average inclination. -/
inductive SlopeClass where
  | t1 | t2 | t3 | t4
  deriving DecidableEq

namespace SlopeClass

/-- The tag of a slope class. -/
def tag : SlopeClass → String
  | t1 => "T1"
  | t2 => "T2"
  | t3 => "T3"
  | t4 => "T4"

/-- The definition of a slope class, angles in degrees. -/
def definition : SlopeClass → String
  | t1 => "Flat surface, isolated slopes and cliffs with average slope angle i <= 15"
  | t2 => "Slopes with average slope angle i > 15"
  | t3 => "Ridges with crest width significantly less than the base width and average slope angle 15 <= i <= 30"
  | t4 => "Ridges with crest width significantly less than the base width and average slope angle i > 30"

/-- What a slope class is written as. -/
def written : SlopeClass → String
  | t1 => "T1"
  | t2 => "T2"
  | t3 => "T3"
  | t4 => "T4"

instance : TagSet SlopeClass where
  members := [t1, t2, t3, t4]
  tag := tag
  written := written
  field := "topologyA"

end SlopeClass

/-- Scheme B: the position of a site on the relief. -/
inductive Landform where
  | valley | lowerSlope | flat | middleSlope | upperSlope | ridge
  deriving DecidableEq

namespace Landform

/-- The tag of a landform. -/
def tag : Landform → String
  | valley => "Valley"
  | lowerSlope => "Lower slope"
  | flat => "Flat"
  | middleSlope => "Middle slope"
  | upperSlope => "Upper slope"
  | ridge => "Ridge"

/-- What a landform is written as. -/
def written : Landform → String
  | valley => "Valley"
  | lowerSlope => "Lower slope"
  | flat => "Flat"
  | middleSlope => "Middle slope"
  | upperSlope => "Upper slope"
  | ridge => "Ridge"

instance : TagSet Landform where
  members := [valley, lowerSlope, flat, middleSlope, upperSlope, ridge]
  tag := tag
  written := written
  field := "topologyB"

end Landform

end SeismicSite
