import Scaffold.Json.Printer
import Scaffold.Json.Reader

/-!
# Readers that take a text

A reader takes a text if it reads it off the front of any longer text, with blanks before it or
not, and leaves all that follows.
-/

namespace Scaffold.Json

def Blanks (cs : List Char) : Prop := ∀ c ∈ cs, isBlank c = true

theorem skipBlanks_append {blanks : List Char} (h : Blanks blanks) (cs : List Char) :
    skipBlanks (blanks ++ cs) = skipBlanks cs := by
  induction blanks with
  | nil => rfl
  | cons c rest ih =>
    have hc : isBlank c = true := h c List.mem_cons_self
    rw [List.cons_append, skipBlanks, List.dropWhile_cons_of_pos hc]
    exact ih fun x hx => h x (List.mem_cons_of_mem c hx)

theorem skipBlanks_append_cons {blanks : List Char} (h : Blanks blanks) {c : Char}
    (hc : isBlank c = false) (cs : List Char) : skipBlanks (blanks ++ c :: cs) = c :: cs := by
  rw [skipBlanks_append h, skipBlanks_cons_of_not_blank hc]

theorem bind_of_ok {ε α β : Type} {result : Except ε α} {a : α} {next : α → Except ε β}
    (h : result = .ok a) : (result >>= next) = next a := by
  rw [h]
  rfl

theorem blanks_nil : Blanks [] := by
  intro c hc
  cases hc

theorem blanks_lineAt (depth : Nat) : Blanks (Printed.lineAt depth) := by
  intro c hc
  rcases List.mem_cons.mp hc with rfl | hc
  · rfl
  · rw [List.eq_of_mem_replicate hc]
    rfl

/-- The reader reads the text as the value, whatever follows it. -/
def Takes {α : Type} (reader : Reader α) (text : List Char) (a : α) : Prop :=
  ∀ blanks rest, Blanks blanks → reader (blanks ++ (text ++ rest)) = .ok (a, rest)

theorem Takes.map {α β : Type} {reader : Reader α} {text : List Char} {a : α}
    (h : Takes reader text a) (f : α → β) :
    Takes (fun cs => do let (v, cs) ← reader cs; .ok (f v, cs)) text (f a) := by
  intro blanks rest hb
  exact bind_of_ok (h blanks rest hb)

end Scaffold.Json
