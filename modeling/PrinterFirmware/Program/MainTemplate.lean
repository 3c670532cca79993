/-
  PrinterFirmware.Program.MainTemplate
  ────────────────────────────────────
  **THE MAIN TEMPLATE.**

  The source template which is filled when no other one is given.  All of its lines,
  those of its head too, are part of every program which is generated from it.
-/

namespace PrinterFirmware.Template

/-- The lines of the main template. -/
def mainLines : List String := [
  "/*",
  " * Copyright (c) 2013 Ambroz Bizjak",
  " * All rights reserved.",
  " * ",
  " * Redistribution and use in source and binary forms, with or without",
  " * modification, are permitted provided that the following conditions are met:",
  " * 1. Redistributions of source code must retain the above copyright",
  " *    notice, this list of conditions and the following disclaimer.",
  " * 2. Redistributions in binary form must reproduce the above copyright",
  " *    notice, this list of conditions and the following disclaimer in the",
  " *    documentation and/or other materials provided with the distribution.",
  " * ",
  " * THIS SOFTWARE IS PROVIDED BY THE COPYRIGHT HOLDERS AND CONTRIBUTORS \"AS IS\" AND",
  " * ANY EXPRESS OR IMPLIED WARRANTIES, INCLUDING, BUT NOT LIMITED TO, THE IMPLIED",
  " * WARRANTIES OF MERCHANTABILITY AND FITNESS FOR A PARTICULAR PURPOSE ARE",
  " * DISCLAIMED. IN NO EVENT SHALL THE AUTHOR BE LIABLE FOR ANY",
  " * DIRECT, INDIRECT, INCIDENTAL, SPECIAL, EXEMPLARY, OR CONSEQUENTIAL DAMAGES",
  " * (INCLUDING, BUT NOT LIMITED TO, PROCUREMENT OF SUBSTITUTE GOODS OR SERVICES;",
  " * LOSS OF USE, DATA, OR PROFITS; OR BUSINESS INTERRUPTION) HOWEVER CAUSED AND",
  " * ON ANY THEORY OF LIABILITY, WHETHER IN CONTRACT, STRICT LIABILITY, OR TORT",
  " * (INCLUDING NEGLIGENCE OR OTHERWISE) ARISING IN ANY WAY OUT OF THE USE OF THIS",
  " * SOFTWARE, EVEN IF ADVISED OF THE POSSIBILITY OF SUCH DAMAGE.",
  " */",
  "",
  "/*",
  " * $$\x7bGENERATED_WARNING\x7d",
  " * ",
  " * Board for build: $$\x7bBoardForBuild\x7d",
  " */",
  "",
  "#include <stdint.h>",
  "#include <stdio.h>",
  "",
  "$$\x7bPLATFORM_INCLUDES\x7d",
  "static void emergency (void);",
  "",
  "#define AMBROLIB_EMERGENCY_ACTION \x7b cli(); emergency(); \x7d",
  "#define AMBROLIB_ABORT_ACTION \x7b while (1); \x7d",
  "",
  "#include <aprinter/meta/WrapValue.h>",
  "#include <aprinter/meta/WrapDouble.h>",
  "#include <aprinter/meta/TypeListUtils.h>",
  "#include <aprinter/base/Object.h>",
  "#include <aprinter/base/DebugObject.h>",
  "#include <aprinter/base/Assert.h>",
  "#include <aprinter/base/PlacementNew.h>",
  "",
  "$$\x7bAprinterIncludes\x7d",
  "using namespace APrinter;",
  "",
  "$$\x7bEXTRA_CONSTANTS\x7d",
  "APRINTER_CONFIG_START",
  "",
  "$$\x7bConfigOptions\x7d",
  "APRINTER_CONFIG_END",
  "",
  "struct MyContext;",
  "struct Program;",
  "",
  "using MyDebugObjectGroup = DebugObjectGroup<MyContext, Program>;",
  "using MyClock = $$\x7bCLOCK\x7d;",
  "$$\x7bGlobalResourceExprs\x7d",
  "struct MyContext \x7b",
  "    using DebugGroup = MyDebugObjectGroup;",
  "    using Clock = MyClock;",
  "$$\x7bGlobalResourceContextAliases\x7d",
  "    void check () const;",
  "\x7d;",
  "",
  "struct Program : public ObjBase<void, void, MakeTypeList<",
  "    MyDebugObjectGroup,",
  "    MyClock,",
  "$$\x7bGlobalResourceProgramChildren\x7d",
  ">> \x7b",
  "    static Program * self (MyContext c);",
  "\x7d;",
  "",
  "union ProgramMemory \x7b",
  "    ProgramMemory () \x7b\x7d",
  "    ~ProgramMemory () \x7b\x7d",
  "    ",
  "    Program program;",
  "\x7d program_memory;",
  "",
  "Program * Program::self (MyContext c) \x7b return &program_memory.program; \x7d",
  "void MyContext::check () const \x7b\x7d",
  "",
  "$$\x7bGlobalCode\x7d",
  "static void emergency (void)",
  "\x7b",
  "    $$\x7bEmergencyProvider\x7d::emergency();",
  "\x7d",
  "",
  "extern \"C\" __attribute__((used)) void __cxa_pure_virtual(void)",
  "\x7b",
  "    AMBRO_ASSERT_ABORT(\"pure virtual function call\")",
  "\x7d",
  "",
  "int main ()",
  "\x7b",
  "$$\x7bInitCalls\x7d",
  "    MyContext c;",
  "    ",
  "    new(&program_memory.program) Program();",
  "    ",
  "    MyDebugObjectGroup::init(c);",
  "    MyClock::init(c);",
  "    ",
  "$$\x7bGlobalResourceInit\x7d",
  "\x7d"]

/-- The main template; every line ends with a line break. -/
def bundled : String := String.join (mainLines.map (· ++ "\n"))

end PrinterFirmware.Template
