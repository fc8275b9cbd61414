import StaticSite.Proofs.Markdown.Heading

/-!
# Lines of words

Most headings are plain words: texts, code and line ends, some of it emphasised, struck out or
linked. Such a line is its characters and its line ends, in order. The title of the line is made of
the characters alone.

## What this module delivers

- `EventTree.isWorded`, `areWorded`: lines of words.
- `forestItems`: the characters and line ends of such a line.
- `forestTitle_toList`: the title of a line of words is its characters.
-/

set_option autoImplicit false

namespace StaticSite.Markdown

/-! ## Words -/

/-- Whether a construct marks words of a line and changes none of them. -/
def Tag.isWorded : Tag → Bool
  | .emphasis | .strong | .strikethrough | .link .. => true
  | _ => false

/-- Whether an event that encloses nothing is a part of a line of words. -/
def Leaf.isWorded : Leaf → Bool
  | .text _ | .code _ | .softBreak | .hardBreak => true
  | _ => false

mutual

/-- Whether a tree is a part of a line of words. -/
def EventTree.isWorded : EventTree → Bool
  | .leaf leaf => leaf.isWorded
  | .node tag children => tag.isWorded && areWorded children

def areWorded : List EventTree → Bool
  | [] => true
  | tree :: rest => tree.isWorded && areWorded rest

end

/-! ## Characters and line ends -/

/-- A character of a line, or the end of a line of its source. -/
abbrev Item := Option Char

/-- What an event that encloses nothing adds to a line of words. -/
def Leaf.items : Leaf → List Item
  | .text content => content.toList.map some
  | .code content => content.toList.map some
  | .softBreak => [none]
  | .hardBreak => [none]
  | _ => []

mutual

/-- The characters and line ends of a tree. -/
def treeItems : EventTree → List Item
  | .leaf leaf => leaf.items
  | .node _ children => forestItems children

def forestItems : List EventTree → List Item
  | [] => []
  | tree :: rest => treeItems tree ++ forestItems rest

end

/-- The characters among items. -/
def charsOf (items : List Item) : List Char :=
  items.filterMap id

/-- Items as they are shown, each line end by a character of its own. -/
def shownChars (items : List Item) : List Char :=
  items.map fun item => item.getD '\n'

theorem charsOf_append (items more : List Item) :
    charsOf (items ++ more) = charsOf items ++ charsOf more :=
  List.filterMap_append

theorem shownChars_append (items more : List Item) :
    shownChars (items ++ more) = shownChars items ++ shownChars more :=
  List.map_append

theorem charsOf_map_some (chars : List Char) : charsOf (chars.map some) = chars := by
  simp [charsOf, List.filterMap_map]

theorem shownChars_map_some (chars : List Char) : shownChars (chars.map some) = chars := by
  simp [shownChars, List.map_map, Function.comp_def]

theorem title_toList (leaf : Leaf) : leaf.title.toList = charsOf leaf.items := by
  cases leaf with
  | text content => exact (charsOf_map_some content.toList).symm
  | code content => exact (charsOf_map_some content.toList).symm
  | _ => rfl

mutual

theorem treeTitle_toList : ∀ tree : EventTree, (treeTitle tree).toList = charsOf (treeItems tree)
  | .leaf leaf => title_toList leaf
  | .node _ children => forestTitle_toList children

/-- The title of a line is its characters, and its line ends leave no trace. -/
theorem forestTitle_toList :
    ∀ trees : List EventTree, (forestTitle trees).toList = charsOf (forestItems trees)
  | [] => rfl
  | tree :: rest => by
      rw [forestTitle, String.toList_append, treeTitle_toList tree, forestTitle_toList rest,
        forestItems, charsOf_append]

end

end StaticSite.Markdown
