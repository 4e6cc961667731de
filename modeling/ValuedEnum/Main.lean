import ValuedEnum.StatusCode

/-!
# The demonstration as a program
-/

/-- Prints the demonstration line by line. -/
def main : IO Unit := do
  for line in ValuedEnum.StatusCode.lines do
    IO.println line
