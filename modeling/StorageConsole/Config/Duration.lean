namespace StorageConsole

def fractionText (digits n : Nat) : String :=
  let ds := Nat.toDigits 10 n
  let padded := List.replicate (digits - ds.length) '0' ++ ds
  let kept := (padded.reverse.dropWhile (· == '0')).reverse
  if kept.isEmpty then "" else String.ofList ('.' :: kept)

def durationText (ms : Nat) : String :=
  if ms = 0 then "0ns"
  else if ms < 1000 then toString ms ++ "ms"
  else toString (ms / 1000) ++ fractionText 3 (ms % 1000) ++ "s"

end StorageConsole
