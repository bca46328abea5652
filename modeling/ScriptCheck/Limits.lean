/-! The bounds of numbers of 32 and 64 bits. -/

namespace ScriptCheck

def limit31 : Nat := 2147483648

def limit32 : Nat := 4294967296

def limit63 : Nat := 9223372036854775808

def limit64 : Nat := 18446744073709551616

end ScriptCheck
