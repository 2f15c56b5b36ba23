import StorageConsole.Url.Direction

/-! How the letters of cursive scripts join in domain names. -/

namespace StorageConsole.Url

inductive Joining where
  | apart
  -- With the letter after it.
  | left
  -- With the letter before it.
  | right
  | dual
  -- Its neighbours join across it.
  | transparent
  deriving DecidableEq, Repr

namespace Joining

def changes : List (Nat × Joining) :=
  [(0x620, .dual), (0x621, .apart), (0x622, .right), (0x626, .dual), (0x627, .right),
   (0x628, .dual), (0x629, .right), (0x62A, .dual), (0x62F, .right), (0x633, .dual),
   (0x640, .apart), (0x641, .dual), (0x648, .right), (0x649, .dual), (0x660, .apart),
   (0x66E, .dual), (0x671, .right), (0x674, .apart), (0x679, .dual), (0x688, .right),
   (0x69A, .dual), (0x6C0, .right), (0x6C1, .dual), (0x6C3, .right), (0x6CC, .dual),
   (0x6CD, .right), (0x6CE, .dual), (0x6CF, .right), (0x6D0, .dual), (0x6D2, .right),
   (0x6D4, .apart), (0x6D5, .right), (0x6DE, .apart), (0x6EE, .right), (0x6F0, .apart),
   (0x6FA, .dual), (0x6FD, .apart), (0x6FF, .dual), (0x700, .apart), (0x710, .right),
   (0x712, .dual), (0x715, .right), (0x71A, .dual), (0x71E, .right), (0x71F, .dual),
   (0x728, .right), (0x729, .dual), (0x72A, .right), (0x72B, .dual), (0x72C, .right),
   (0x72D, .dual), (0x72F, .right), (0x74E, .dual), (0x759, .right), (0x75C, .dual),
   (0x76B, .right), (0x76D, .dual), (0x771, .right), (0x772, .dual), (0x773, .right),
   (0x775, .dual), (0x778, .right), (0x77A, .dual), (0x780, .apart), (0x7CA, .dual),
   (0x7F4, .apart), (0x840, .right), (0x841, .dual), (0x846, .right), (0x848, .dual),
   (0x849, .right), (0x84A, .dual), (0x854, .right), (0x855, .dual), (0x856, .right),
   (0x85E, .apart), (0x860, .dual), (0x861, .apart), (0x862, .dual), (0x866, .apart),
   (0x867, .right), (0x868, .dual), (0x869, .right), (0x883, .apart), (0x886, .dual),
   (0x887, .apart), (0x889, .dual), (0x88E, .right), (0x88F, .dual), (0x8AA, .right),
   (0x8AD, .apart), (0x8AE, .right), (0x8AF, .dual), (0x8B1, .right), (0x8B3, .dual),
   (0x8B9, .right), (0x8BA, .dual), (0x8C9, .apart), (0xCBF, .transparent), (0xCC0, .apart),
   (0xCC6, .transparent), (0xCC7, .apart), (0x1807, .dual), (0x1808, .apart), (0x1820, .dual),
   (0x1880, .apart), (0x1887, .dual), (0x18B0, .apart), (0xA840, .dual), (0xA872, .left),
   (0xA873, .apart), (0x10AC0, .dual), (0x10AC5, .right), (0x10AC6, .apart), (0x10AC7, .right),
   (0x10AC8, .apart), (0x10AC9, .right), (0x10ACB, .apart), (0x10ACD, .left), (0x10ACE, .right),
   (0x10AD3, .dual), (0x10AD7, .left), (0x10AD8, .dual), (0x10ADD, .right), (0x10ADE, .dual),
   (0x10AE1, .right), (0x10AE2, .apart), (0x10AE4, .right), (0x10AEB, .dual), (0x10AEF, .right),
   (0x10AF0, .apart), (0x10B80, .dual), (0x10B81, .right), (0x10B82, .dual), (0x10B83, .right),
   (0x10B86, .dual), (0x10B89, .right), (0x10B8A, .dual), (0x10B8C, .right), (0x10B8D, .dual),
   (0x10B8E, .right), (0x10B90, .dual), (0x10B91, .right), (0x10B99, .apart), (0x10BA9, .right),
   (0x10BAD, .dual), (0x10BAF, .apart), (0x10D00, .left), (0x10D01, .dual), (0x10D22, .right),
   (0x10D23, .dual), (0x10D30, .apart), (0x10EC2, .right), (0x10EC3, .dual), (0x10EC5, .apart),
   (0x10EC6, .dual), (0x10ED0, .apart), (0x10F30, .dual), (0x10F33, .right), (0x10F34, .dual),
   (0x10F45, .apart), (0x10F51, .dual), (0x10F54, .right), (0x10F55, .apart), (0x10F70, .dual),
   (0x10F74, .right), (0x10F76, .dual), (0x10F86, .apart), (0x10FB0, .dual), (0x10FB1, .apart),
   (0x10FB2, .dual), (0x10FB4, .right), (0x10FB7, .apart), (0x10FB8, .dual), (0x10FB9, .right),
   (0x10FBB, .dual), (0x10FBD, .right), (0x10FBE, .dual), (0x10FC0, .apart), (0x10FC1, .dual),
   (0x10FC2, .right), (0x10FC4, .dual), (0x10FC5, .apart), (0x10FC9, .right), (0x10FCA, .dual),
   (0x10FCB, .left), (0x10FE0, .apart), (0x11A07, .transparent), (0x11A0B, .apart),
   (0x11C3F, .transparent), (0x11C40, .apart), (0x1E922, .dual), (0x1E94B, .transparent),
   (0x1E950, .apart)]

def ofChar (c : Char) : Joining :=
  if Direction.ofChar c = .mark then .transparent
  else ((changes.takeWhile (·.1 ≤ c.toNat)).getLast?.map (·.2)).getD .apart

end Joining
end StorageConsole.Url
