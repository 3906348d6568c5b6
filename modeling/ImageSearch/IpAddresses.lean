import ImageSearch.Payload

namespace ImageSearch.IpAddresses
open Payload

def octet (text : List Char) : Bool :=
  text ≠ [] && text.all Char.isDigit && text.length ≤ 3 && (text = ['0'] || text.head? ≠ some '0') &&
    text.foldl (fun value c => value*10 + (c.toNat-48)) 0 ≤ 255

def ipv4Address (text : List Char) : Bool := (text.splitOn '.').length = 4 && (text.splitOn '.').all octet

def hextet (text : List Char) : Bool := text ≠ [] && text.all isHexDigit && text.length ≤ 4

-- An address in the last part stands for two hextets.
def ipv6Parts (text : List Char) : Option (List (List Char)) :=
  let parts := text.splitOn ':'
  let last := parts.getLast?.getD []
  if parts.length < 3 then none
  else if '.' ∈ last then if ipv4Address last then some (parts.dropLast ++ [['0'],['0']]) else none
  else some parts

-- The parts around the empty one that a "::" leaves, of which the address may have one. An
-- empty part at an end belongs to it.
def hextets (parts : List (List Char)) : Bool :=
  let inner := (parts.drop 1).dropLast
  match inner.count [] with
  | 0 => parts.length = 8 && parts.all hextet
  | 1 =>
    let skip := 1 + inner.idxOf []
    let side (part : List (List Char)) : List (List Char) := if part = [[]] then [] else part
    let around := side (parts.take skip) ++ side (parts.drop (skip+1))
    around.length < 8 && around.all hextet
  | _ => false

def ipv6Address (text : List Char) : Bool :=
  let address := text.takeWhile fun c => c ≠ '%'
  let scope := text.drop address.length
  '/' ∉ text && (scope = [] || (1 < scope.length && '%' ∉ scope.drop 1)) && address ≠ [] &&
    ((ipv6Parts address).any fun parts => parts.length ≤ 9 && hextets parts)

-- ipaddress.ip_address; `false` where it raises.
def ipAddress (text : String) : Bool := ipv4Address text.toList || ipv6Address text.toList

example : ["10.0.0.7","::","fe80::1%en0","1::","::ffff:10.0.0.7","1:2:3:4:5:6:7:8"].all ipAddress = true := by decide
example : ["","10.0.0.256","10.0.0.07","1::2::3",":1:2:3:4:5:6:7","fe80::1%","1:2:3:4:5:6:7:8:9","10.0.0.7/8"].any ipAddress = false := by
  decide

end ImageSearch.IpAddresses
