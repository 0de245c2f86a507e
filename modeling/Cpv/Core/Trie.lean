import Mathlib.Data.List.Basic
import Mathlib.Logic.Function.Basic

/-- A tree with a value at every node, whose edges are labelled with keys. A
    node is named by the keys on the way to it from the root. -/
inductive Trie (κ ν : Type)
  | node (value : ν) (childs : κ → Option (Trie κ ν))

namespace Trie

variable {κ ν : Type}

def value : Trie κ ν → ν
  | node value _ => value

def childs : Trie κ ν → κ → Option (Trie κ ν)
  | node _ childs => childs

def leaf (value : ν) : Trie κ ν := node value fun _ => none

/-- The node that the keys lead to. -/
def find (tree : Trie κ ν) : List κ → Option (Trie κ ν)
  | [] => some tree
  | key :: keys => (tree.childs key).bind fun child => child.find keys

/-- The value at the node that the keys lead to. -/
def valueAt (tree : Trie κ ν) (keys : List κ) : Option ν := (tree.find keys).map value

theorem find_append (tree : Trie κ ν) (keys rest : List κ) :
    tree.find (keys ++ rest) = (tree.find keys).bind fun node => node.find rest := by
  induction keys generalizing tree with
  | nil => rfl
  | cons key keys ih =>
    rw [List.cons_append, find, find]
    cases tree.childs key with
    | none => rfl
    | some child => exact ih child

@[simp]
theorem valueAt_nil (tree : Trie κ ν) : tree.valueAt [] = some tree.value := rfl

theorem valueAt_cons (tree : Trie κ ν) (key : κ) (keys : List κ) :
    tree.valueAt (key :: keys) = (tree.childs key).bind fun child => child.valueAt keys := by
  rw [valueAt, find]
  cases tree.childs key <;> rfl

theorem isSome_find (tree : Trie κ ν) (keys : List κ) :
    (tree.find keys).isSome = (tree.valueAt keys).isSome := by
  rw [valueAt, Option.isSome_map]

theorem valueAt_leaf (value : ν) (keys : List κ) :
    (leaf value : Trie κ ν).valueAt keys = if keys = [] then some value else none := by
  cases keys <;> rfl

variable [DecidableEq κ]

/-- Change the value at a node. Nodes missing on the way to it are made with
    the default value. -/
def alter (default : ν) (f : ν → ν) : List κ → Trie κ ν → Trie κ ν
  | [], tree => node (f tree.value) tree.childs
  | key :: keys, tree =>
    node tree.value (Function.update tree.childs key
      (some (alter default f keys ((tree.childs key).getD (leaf default)))))

/-- Change the value at a node, if it exists. -/
def adjust (f : ν → ν) : List κ → Trie κ ν → Trie κ ν
  | [], tree => node (f tree.value) tree.childs
  | key :: keys, tree =>
    match tree.childs key with
    | none => tree
    | some child => node tree.value (Function.update tree.childs key (some (adjust f keys child)))

/-- What a changed tree holds: the new value at the changed node, the default
    at the nodes that were made on the way to it, the old values elsewhere. -/
theorem valueAt_alter (default : ν) (f : ν → ν) (target : List κ) (tree : Trie κ ν) (keys : List κ) :
    (alter default f target tree).valueAt keys =
      if keys = target then some (f ((tree.valueAt target).getD default))
      else if keys <+: target then some ((tree.valueAt keys).getD default)
      else tree.valueAt keys := by
  induction target generalizing tree keys with
  | nil =>
    cases keys with
    | nil => rfl
    | cons key keys => simp [alter, valueAt_cons, childs]
  | cons first target ih =>
    cases keys with
    | nil => simp [alter, value]
    | cons key keys =>
      rw [alter, valueAt_cons, childs, valueAt_cons]
      by_cases hkey : key = first
      · subst hkey
        rw [Function.update_self, Option.bind_some, ih, valueAt_cons]
        simp only [List.cons.injEq, true_and, List.cons_prefix_cons]
        cases tree.childs key with
        | some child => rfl
        | none =>
          have hdefault (keys : List κ) : ((leaf default).valueAt keys).getD default = default := by
            rw [valueAt_leaf]
            split <;> rfl
          have hnone (hnot : ¬ keys <+: target) : (leaf default).valueAt keys = none := by
            rw [valueAt_leaf, if_neg]
            rintro rfl
            exact hnot List.nil_prefix
          simp only [Option.getD_none, Option.bind_none, hdefault]
          split
          · rfl
          · split
            · rfl
            · rename_i hnot
              exact hnone hnot
      · rw [Function.update_of_ne hkey]
        simp [hkey, valueAt_cons]

/-- Adjusting a node changes no other value, and makes no node. -/
theorem valueAt_adjust (f : ν → ν) (target : List κ) (tree : Trie κ ν) (keys : List κ) :
    (adjust f target tree).valueAt keys =
      if keys = target then (tree.valueAt keys).map f else tree.valueAt keys := by
  induction target generalizing tree keys with
  | nil =>
    cases keys with
    | nil => rfl
    | cons key keys => simp [adjust, valueAt_cons, childs]
  | cons first target ih =>
    rw [adjust]
    cases hchild : tree.childs first with
    | none =>
      by_cases hkeys : keys = first :: target
      · simp [hkeys, valueAt_cons, hchild]
      · rw [if_neg hkeys]
    | some child =>
      cases keys with
      | nil => simp [value]
      | cons key keys =>
        rw [valueAt_cons, childs, valueAt_cons]
        by_cases hkey : key = first
        · subst hkey
          rw [Function.update_self, Option.bind_some, ih, hchild]
          simp
        · rw [Function.update_of_ne hkey]
          simp [hkey]

end Trie
