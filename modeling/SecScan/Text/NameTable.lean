/-!
The names of the characters of Unicode 14 and their aliases, as a named escape in a string
looks them up: a name matches without regard to the case of its letters, and a named sequence is
no character. Names made by rule are not listed but recognized by their form: a CJK unified
ideograph is named by `CJK UNIFIED IDEOGRAPH-` and four or five upper-case hexadecimal digits of
its code point, and a Hangul syllable by `HANGUL SYLLABLE ` and the short names of its leading
consonant, vowel and trailing consonant, each the longest that fits.

The list is sorted, and each name is written as the number of leading characters it shares with
the name before it, in lower-case letters counting from `a` for none (two letters from `ba` on
for twenty-six and more), followed by the rest of the name.
-/

namespace SecScan.Text

/-- The listed names, one a line, each sharing a counted prefix with the one before it. -/
def characterNameText : String := "aABACUS
bC CURRENT
cCORDION
eUNT OF
cK
dNOWLEDGE
cTIVATE ARABIC FORM SHAPING
jSYMMETRIC SWAPPING
cUTE ACCENT
hNGLE
bDDRESSED TO THE SUBJECT
cHESIVE BANDAGE
cI SHAKTI
cLAM ALIF LENGTHENER
gCAPITAL LETTER ALIF
vBA
wHE
vCHI
vDAALI
wHA
vE
vFA
vGA
wBE
vHA
vI
vJIIM
vKAF
wHA
wPO
vLAAM
vMIIM
vNHA
wUN
wYA
vO
vPE
vQAAF
vRA
vSHA
wINNYIIYHE
vTU
vU
vVA
vWAW
vYA
wHE
vZAL
hONSONANT MODIFIER
gDIGIT EIGHT
mFIVE
nOUR
mNINE
mONE
mSEVEN
nIX
mTHREE
nWO
mZERO
gGEMINATE CONSONANT MODIFIER
nION MARK
gHAMZA
gINITIAL EXCLAMATION MARK
oQUESTION MARK
gNASALIZATION MARK
hUKTA
gSMALL LETTER ALIF
tBA
uHE
tCHI
tDAALI
uHA
tE
tFA
tGA
uBE
tHA
tI
tJIIM
tKAF
uHA
uPO
tLAAM
tMIIM
tNHA
uUN
uYA
tO
tPE
tQAAF
tRA
tSHA
uINNYIIYHE
tTU
tU
tVA
tWAW
tYA
uHE
tZAL
gVOWEL LENGTHENER
cMETOS
dISSION TICKETS
cULT
bEGEAN CHECK MARK
hDRY MEASURE FIRST SUBUNIT
hLIQUID MEASURE FIRST SUBUNIT
hMEASURE SECOND SUBUNIT
pTHIRD SUBUNIT
hNUMBER EIGHT
t HUNDRED
uTHOUSAND
tY
u THOUSAND
oFIFTY
t THOUSAND
qVE
s HUNDRED
tTHOUSAND
pORTY
t THOUSAND
qUR
s HUNDRED
tTHOUSAND
oNINE
s HUNDRED
tTHOUSAND
sTY
u THOUSAND
oONE
r HUNDRED
sTHOUSAND
oSEVEN
t HUNDRED
uTHOUSAND
tTY
v THOUSAND
pIX
r HUNDRED
sTHOUSAND
rTY
t THOUSAND
oTEN
r THOUSAND
pHIRTY
u THOUSAND
qREE
t HUNDRED
uTHOUSAND
pWENTY
u THOUSAND
qO
r HUNDRED
sTHOUSAND
hWEIGHT BASE UNIT
oFIRST SUBUNIT
pOURTH SUBUNIT
oSECOND SUBUNIT
oTHIRD SUBUNIT
iORD SEPARATOR DOT
wLINE
cRIAL TRAMWAY
bFGHANI SIGN
bHOM CONSONANT SIGN MEDIAL LA
bcIGATING RA
bbRA
fDIGIT EIGHT
lFIVE
mOUR
lNINE
lONE
lSEVEN
mIX
lTHREE
mWO
lZERO
fLETTER A
nLTERNATE BA
wGA
wTA
mBA
nHA
mCA
nHA
mDA
nDA
oHA
nHA
mGA
nHA
mHA
mJA
nHA
mKA
nHA
mLA
nLA
mMA
mNA
nGA
nNA
nYA
mPA
nHA
mRA
mSA
mTA
nHA
nTA
oHA
fNUMBER TEN
nWENTY
fSIGN KILLER
kRULAI
kSECTION
lMALL SECTION
gYMBOL VI
fVOWEL SIGN A
rA
rI
rM
rW
qE
qI
rI
qO
qU
rU
bIRPLANE
i ARRIVING
jDEPARTURE
bKTIESELSKAB
bLARM CLOCK
cCHEMICAL SYMBOL FOR AIR
xLEMBIC
yKALI
bc-2
yUM
xMALGAM
xNTIMONY ORE
xQUA REGIA
bg-2
bbVITAE
bg-2
baFORTIS
xRSENIC
xSHES
xURIPIGMENT
wBATH OF MARY
beVAPOURS
xISMUTH ORE
xLACK SULFUR
xORAX
bb-2
bc3
xRICK
wCADUCEUS
yLX
yPUT MORTUUM
xINNABAR
xOPPER ANTIMONIATE
bdORE
xROCUS OF COPPER
bm-2
bgIRON
yUCIBLE
be-2
bf3
bf4
bf5
wDAY-NIGHT
xISSOLVE
be-2
zTILL
wEARTH
wFIRE
wGOLD
xUM
wHALF DRAM
bbOUNCE
xORSE DUNG
yUR
wIRON ORE
be-2
ba-COPPER ORE
wLEAD ORE
xODESTONE
wMARCASITE
xERCURY SUBLIMATE
bn-2
bo3
xONTH
wNIGHT
yTRE
wOIL
wPHILOSOPHERS SULFUR
xOT ASHES
yWDER
bcED BRICK
xRECIPITATE
xURIFY
yTREFACTION
wQUICK LIME
zNTESSENCE
wREALGAR
bd-2
yGULUS
bd OF ANTIMONY
bp-2
bhIRON
bd-2
be3
be4
yTORT
xOCK SALT
bf-2
wSAL-AMMONIAC
zT
ba OF ANTIMONY
beCOPPER ANTIMONIATE
xCEPTER OF JOVE
xILVER
xOAP
xPIRIT
xTARRED TRIDENT
yRATUM SUPER STRATUM
br-2
xUBLIMATE OF ANTIMONY
bjCOPPER
bjSALT OF ANTIMONY
brCOPPER
beION
yLFUR
wTARTAR
bc-2
xIN ORE
zCTURE
xRIDENT
xUTTY
wURINE
wVERDIGRIS
xINEGAR
bd OF ANTIMONY
bd-2
be3
yTRIOL
bd-2
wWATER
yX
cEF SYMBOL
dMBIC
dRT
cIEN MONSTER
cL AROUND-PROFILE
eEQUAL TO
cM
dOST EQUAL OR EQUAL TO
nTO
p WITH CIRCUMFLEX ACCENT
cTERNATE ONE-WAY LEFT WAY TRAFFIC
iIVE KEY SYMBOL
bMALGAMATION OR COPRODUCT
cBULANCE
cERICAN FOOTBALL
cPERSAND
dHORA
bNATOLIAN HIEROGLYPH A001
y2
y3
y4
y5
y6
y7
y8
y9
x10
zA
y1
y2
y3
y4
y5
y6
y7
y8
y9
x20
y1
y2
y3
y4
y5
y6
zA
y7
y8
y9
x30
y1
y2
y3
y4
y5
y6
y7
y8
y9
zA
x40
y1
zA
y2
y3
y4
y5
zA
y6
zA
zB
y7
y8
y9
x50
y1
y2
y3
y4
y5
y6
y7
y8
y9
x60
y1
y2
y3
y4
y5
y6
zA
zB
zC
y7
y8
y9
x70
y1
y2
y3
y4
y5
y6
y7
y8
y9
x80
y1
y2
y3
y4
y5
y6
y7
y8
y9
x90
y1
y2
y3
y4
y5
y6
y7
zA
y8
zA
y9
w100
zA
y1
zA
y2
zA
y3
y4
zA
zB
zC
y5
zA
zB
y6
y7
zA
zB
zC
y8
y9
x10
zA
zB
y1
y2
y3
y4
y5
zA
y6
y7
y8
y9
x20
y1
y2
y3
y4
y5
zA
y6
y7
y8
y9
x30
y1
y2
y3
y4
y5
zA
y6
y7
y8
y9
x40
y1
y2
y3
y4
y5
y6
y7
y8
y9
x50
y1
y2
y3
y4
y5
y6
y7
y8
y9
x60
y1
y2
y3
y4
y5
y6
y7
y8
y9
x70
y1
y2
y3
y4
y5
y6
y7
y8
y9
x80
y1
y2
y3
y4
y5
y6
y7
y8
y9
x90
y1
y2
y3
y4
y5
y6
y7
y8
y9
w200
y1
y2
zA
zB
y3
y4
y5
y6
y7
zA
y8
y9
zA
x10
y1
y2
y3
y4
y5
zA
y6
zA
y7
y8
y9
x20
y1
y2
y3
y4
y5
y6
y7
zA
y8
y9
x30
y1
y2
y3
y4
y5
y6
y7
y8
y9
x40
y1
y2
y3
y4
y5
y6
y7
y8
y9
x50
y1
y2
y3
y4
y5
y6
y7
y8
y9
x60
y1
y2
y3
y4
y5
y6
y7
zA
y8
y9
x70
y1
y2
y3
y4
y5
y6
y7
y8
y9
x80
y1
y2
y3
y4
y5
y6
y7
y8
y9
zA
x90
y1
y2
y3
y4
zA
y5
y6
y7
y8
y9
zA
w300
y1
y2
y3
y4
y5
y6
y7
y8
y9
zA
x10
y1
y2
y3
y4
y5
y6
y7
y8
y9
x20
y1
y2
y3
y4
y5
y6
y7
y8
y9
zA
x30
y1
y2A
zB
zC
y3
y4
y5
y6
zA
zB
zC
y7
y8
y9
x40
y1
y2
y3
y4
y5
y6
y7
y8
y9
x50
y1
y2
y3
y4
y5
y6
y7
y8
y9
zA
x60
y1
y2
y3
y4
zA
y5
y6
y7
y8
zA
y9
x70
y1
zA
y2
y3
y4
y5
y6
y7
y8
y9
x80
y1
zA
y2
y3 RA OR RI
zA
y4
y5
y6
zA
y7
y8
y9
x90
y1
y2
y3 EIGHT
y4
y5
y6
y7
y8
y9
w400
y1
y2
y3
y4
y5
y6
y7
y8
y9
x10 BEGIN LOGOGRAM MARK
zA END LOGOGRAM MARK
y1
y2
y3
y4
y5
y6
y7
y8
y9
x20
y1
y2
y3
y4
y5
y6
y7
y8
y9
x30
y1
y2
y3
y4
y5
y6
y7
y8
y9
x40
y1
y2
y3
y4
y5
y6
y7
y8
y9
x50
zA
y1
y2
y3
y4
y5
y6
y7
zA
y8
y9
x60
y1
y2
y3
y4
y5
y6
y7
y8
y9
x70
y1
y2
y3
y4
y5
y6
y7
y8
y9
x80
y1
y2
y3
y4
y5
y6
y7
y8
y9
x90
y1
y2
y3
y4
y5
y6
y7
w501
y2
y3
y4
y5
y6
y7
y8
y9
x10
y1
y2
y3
y4
y5
y6
y7
y8
y9
x20
y1
y2
y3
y4
y5
y6
y7
y8
y9
x30
fMICAL HEART
cCHOR
cD WITH DOT
cGER SYMBOL
dLE
f WITH S INSIDE
lUNDERBAR
dRY FACE
dSTROM SIGN
dUISHED FACE
cKH
cT
dENNA WITH BARS
dICLOCKWISE CLOSED CIRCLE ARROW
pONTOUR INTEGRAL
oDOWNWARDS AND UPWARDS OPEN CIRCLE ARROWS
oGAPPED CIRCLE ARROW
oINTEGRATION
oOPEN CIRCLE ARROW
oTOP SEMICIRCLE ARROW
pRIANGLE-HEADED BOTTOM U-SHAPED ARROW
beLEFT U-SHAPED ARROW
beOPEN CIRCLE ARROW
beRIGHT U-SHAPED ARROW
beTOP U-SHAPED ARROW
bPC
cL FUNCTIONAL SYMBOL ALPHA
bb UNDERBAR
wBACKSLASH BAR
wCIRCLE BACKSLASH
bdDIAERESIS
bdJOT
bdSTAR
bfILE
bdUNDERBAR
xOMMA BAR
wDEL DIAERESIS
baSTILE
baTILDE
zTA STILE
bcUNDERBAR
xIAMOND UNDERBAR
xOWN CARET TILDE
bbSHOE STILE
bbTACK JOT
bgUNDERBAR
baWARDS VANE
wEPSILON UNDERBAR
wGREATER-THAN DIAERESIS
wI-BEAM
xOTA
ba UNDERBAR
wJOT DIAERESIS
baUNDERBAR
wLEFT SHOE STILE
baWARDS VANE
wOMEGA
bb UNDERBAR
wQUAD
ba BACKSLASH
bbCIRCLE
bcOLON
bbDEL
beTA
bcIAMOND
bdVIDE
bcOWN CARET
bfWARDS ARROW
bbEQUAL
bbGREATER-THAN
bbJOT
bbLEFTWARDS ARROW
bdSS-THAN
bbNOT EQUAL
bbQUESTION
bbRIGHTWARDS ARROW
bbSLASH
bbUP CARET
bdWARDS ARROW
yOTE QUAD
bcUNDERBAR
wRHO
xIGHTWARDS VANE
wSEMICOLON UNDERBAR
xLASH BAR
xQUISH QUAD
xTAR DIAERESIS
yILE TILDE
wTILDE DIAERESIS
wUP CARET TILDE
zSHOE JOT
zTACK DIAERESIS
beJOT
beOVERBAR
yWARDS VANE
wZILDE
cOLLON
dSTROPHE
cPLICATION PROGRAM COMMAND
dROACHES THE LIMIT
fXIMATELY BUT NOT ACTUALLY EQUAL TO
oEQUAL OR EQUAL TO
uTO
w OR THE IMAGE OF
bQUARIUS
bRABIC BASELINE ROUND DOT
hCOMMA
iURLY DAMMA
sTAN
nFATHA
sTAN
nKASRA
sTAN
hDAMMA
m ISOLATED FORM
nMEDIAL FORM
nWITH DOT
mTAN
p ISOLATED FORM
jTE SEPARATOR
iECIMAL SEPARATOR
iISPUTED END OF AYAH
iOUBLE RIGHT ARROWHEAD ABOVE
bj WITH DOT
nD MADDA
hEMPTY CENTRE HIGH STOP
uLOW STOP
iND OF AYAH
oTEXT MARK
hFATHA
m ISOLATED FORM
nMEDIAL FORM
nWITH DOT ABOVE
sRING
sTWO DOTS
mTAN
p ISOLATED FORM
iIVE POINTED STAR
iOOTNOTE MARKER
iULL STOP
hHALF MADDA OVER MADDA
jMZA ABOVE
nBELOW
hINVERTED DAMMA
hKASRA
m ISOLATED FORM
nMEDIAL FORM
nWITH DOT BELOW
mTAN
p ISOLATED FORM
hLARGE CIRCLE BELOW
nROUND DOT ABOVE
xBELOW
xINSIDE CIRCLE BELOW
iEFT ARROWHEAD ABOVE
wBELOW
jTTER AE
pFRICAN FEH
wNOON
wQAF
z WITH THREE DOTS ABOVE
pIN
r FINAL FORM
sINITIAL FORM
tSOLATED FORM
sMEDIAL FORM
sWITH THREE DOTS ABOVE
biBELOW
biPOINTING DOWNWARDS ABOVE
yWO DOTS ABOVE
bgVERTICALLY ABOVE
pLEF
s FINAL FORM
tISOLATED FORM
tMAKSURA
ba FINAL FORM
bbISOLATED FORM
tWASLA
y FINAL FORM
zISOLATED FORM
uITH ATTACHED BOTTOM RIGHT KASRA
bz AND DOT ABOVE
ceLEFT RING
bhFATHA
bhKASRA
bhLEFT HAMZA
bmROUND DOT
bhRIGHT HAMZA
bnROUND DOT
biOUND DOT ABOVE
brBELOW
bhTOP RIGHT FATHA
bw AND DOT ABOVE
cbLEFT RING
yDOT ABOVE
yEXTENDED ARABIC-INDIC DIGIT THREE ABOVE
cbWO ABOVE
yHAMZA ABOVE
bj FINAL FORM
bkISOLATED FORM
beBELOW
bj FINAL FORM
bkISOLATED FORM
yLEFT MIDDLE STROKE
yMADDA ABOVE
bj FINAL FORM
bkISOLATED FORM
yRIGHT MIDDLE STROKE
br AND DOT ABOVE
bwLEFT RING
yWAVY HAMZA ABOVE
bjBELOW
oBEEH
s FINAL FORM
tINITIAL FORM
uSOLATED FORM
tMEDIAL FORM
qH
r FINAL FORM
sINITIAL FORM
tSOLATED FORM
sMEDIAL FORM
sWITH DOT BELOW AND THREE DOTS ABOVE
xHAMZA ABOVE
xINVERTED SMALL V BELOW
xSMALL MEEM ABOVE
bdV
be BELOW
xTHREE DOTS HORIZONTALLY BELOW
biPOINTING UPWARDS BELOW
ce AND TWO DOTS ABOVE
yWO DOTS BELOW AND DOT ABOVE
rEH
t FINAL FORM
uINITIAL FORM
vSOLATED FORM
uMEDIAL FORM
oDAD
r FINAL FORM
sINITIAL FORM
tSOLATED FORM
sMEDIAL FORM
sWITH DOT BELOW
qHAL
t FINAL FORM
uISOLATED FORM
qL
r FINAL FORM
sISOLATED FORM
sWITH DOT BELOW
bg AND SMALL TAH
xFOUR DOTS ABOVE
xINVERTED SMALL V BELOW
bgV
xRING
xTHREE DOTS ABOVE DOWNWARDS
biBELOW
yWO DOTS VERTICALLY BELOW AND SMALL TAH
pDAHAL
u FINAL FORM
vISOLATED FORM
rL
s FINAL FORM
tISOLATED FORM
pOTLESS BEH
wFEH
wQAF
pUL
r FINAL FORM
sISOLATED FORM
pYEH
s FINAL FORM
tINITIAL FORM
uSOLATED FORM
tMEDIAL FORM
oE
p FINAL FORM
qINITIAL FORM
rSOLATED FORM
qMEDIAL FORM
oFARSI YEH
x FINAL FORM
yINITIAL FORM
zSOLATED FORM
yMEDIAL FORM
yWITH EXTENDED ARABIC-INDIC DIGIT FOUR BELOW
cfTHREE ABOVE
cgWO ABOVE
bdINVERTED V
bdTHREE DOTS ABOVE
beWO DOTS ABOVE
pEH
r FINAL FORM
sINITIAL FORM
tSOLATED FORM
sMEDIAL FORM
sWITH DOT BELOW
bg AND THREE DOTS ABOVE
bbMOVED BELOW
xTHREE DOTS BELOW
biPOINTING UPWARDS BELOW
yWO DOTS BELOW
oGAF
r FINAL FORM
sINITIAL FORM
tSOLATED FORM
sMEDIAL FORM
sWITH INVERTED STROKE
xRING
xTHREE DOTS ABOVE
yWO DOTS BELOW
pHAIN
t FINAL FORM
uINITIAL FORM
vSOLATED FORM
uMEDIAL FORM
uWITH DOT BELOW
zTHREE DOTS ABOVE
pRAF
pUEH
s FINAL FORM
tINITIAL FORM
uSOLATED FORM
tMEDIAL FORM
oHAH
r FINAL FORM
sINITIAL FORM
tSOLATED FORM
sMEDIAL FORM
sWITH EXTENDED ARABIC-INDIC DIGIT FOUR BELOW
xHAMZA ABOVE
xINVERTED SMALL V BELOW
xSMALL ARABIC LETTER TAH ABOVE
bwND TWO DOTS
bvBELOW
xTHREE DOTS ABOVE
biPOINTING UPWARDS BELOW
yWO DOTS ABOVE
bgVERTICAL ABOVE
qMZA
t ISOLATED FORM
pEH
r DOACHASHMEE
bd FINAL FORM
beINITIAL FORM
bfSOLATED FORM
beMEDIAL FORM
sFINAL FORM
sGOAL
w FINAL FORM
xINITIAL FORM
ySOLATED FORM
xMEDIAL FORM
xWITH HAMZA ABOVE
sINITIAL FORM
tSOLATED FORM
sMEDIAL FORM
sWITH INVERTED V
xYEH ABOVE
bg FINAL FORM
bhISOLATED FORM
pIGH HAMZA
y ALEF
zWAW
zYEH
oJEEM
s FINAL FORM
tINITIAL FORM
uSOLATED FORM
tMEDIAL FORM
tWITH THREE DOTS ABOVE
bjBELOW
zWO DOTS ABOVE
qH
r FINAL FORM
sISOLATED FORM
oKAF
r FINAL FORM
sINITIAL FORM
tSOLATED FORM
sMEDIAL FORM
sWITH DOT ABOVE
bbBELOW
xRING
xTHREE DOTS BELOW
yWO DOTS ABOVE
qSHMIRI YEH
pEHEH
t FINAL FORM
uINITIAL FORM
vSOLATED FORM
uMEDIAL FORM
uWITH DOT ABOVE
zSMALL V
zTHREE DOTS ABOVE
bkBELOW
bkPOINTING UPWARDS BELOW
baWO DOTS ABOVE
biVERTICALLY BELOW
pHAH
s FINAL FORM
tINITIAL FORM
uSOLATED FORM
tMEDIAL FORM
pIRGHIZ OE
y FINAL FORM
zISOLATED FORM
wYU
y FINAL FORM
zISOLATED FORM
oLAM
r FINAL FORM
sINITIAL FORM
tSOLATED FORM
sMEDIAL FORM
sWITH BAR
xDOT ABOVE
zUBLE BAR
xSMALL ARABIC LETTER TAH ABOVE
bdV
xTHREE DOTS ABOVE
biBELOW
pOW ALEF
oMARK
pEEM
s FINAL FORM
tINITIAL FORM
uSOLATED FORM
tMEDIAL FORM
tWITH DOT ABOVE
bcBELOW
yTHREE DOTS ABOVE
oNG
q FINAL FORM
rINITIAL FORM
sSOLATED FORM
rMEDIAL FORM
qOEH
t FINAL FORM
uINITIAL FORM
vSOLATED FORM
uMEDIAL FORM
pOON
s FINAL FORM
tGHUNNA
z FINAL FORM
baISOLATED FORM
tINITIAL FORM
uSOLATED FORM
tMEDIAL FORM
tWITH DOT BELOW
yINVERTED SMALL V
yRING
ySMALL TAH
beV
yTHREE DOTS ABOVE
zWO DOTS BELOW
pYEH
s FINAL FORM
tINITIAL FORM
uSOLATED FORM
tMEDIAL FORM
oOE
q FINAL FORM
rISOLATED FORM
oPEH
r FINAL FORM
sINITIAL FORM
tSOLATED FORM
sMEDIAL FORM
sWITH SMALL MEEM ABOVE
bdV
rEH
t FINAL FORM
uINITIAL FORM
vSOLATED FORM
uMEDIAL FORM
oQAF
r FINAL FORM
sINITIAL FORM
tSOLATED FORM
sMEDIAL FORM
sWITH DOT ABOVE
bbBELOW
bg AND NO DOTS ABOVE
xTHREE DOTS ABOVE
oREH
r FINAL FORM
sISOLATED FORM
sWITH DOT BELOW
bg AND DOT ABOVE
xFOUR DOTS ABOVE
xHAMZA ABOVE
xINVERTED V
xLOOP
xRING
xSMALL ARABIC LETTER TAH AND TWO DOTS
bdNOON ABOVE
bdV
be BELOW
yTROKE
xTWO DOTS ABOVE
bgVERTICALLY ABOVE
pNOON
t FINAL FORM
uINITIAL FORM
vSOLATED FORM
uMEDIAL FORM
pOHINGYA YEH
pREH
s FINAL FORM
tISOLATED FORM
oSAD
r FINAL FORM
sINITIAL FORM
tSOLATED FORM
sMEDIAL FORM
sWITH THREE DOTS ABOVE
biBELOW
yWO DOTS BELOW
pEEN
s FINAL FORM
tINITIAL FORM
uSOLATED FORM
tMEDIAL FORM
tWITH DOT BELOW AND DOT ABOVE
yEXTENDED ARABIC-INDIC DIGIT FOUR ABOVE
yFOUR DOTS ABOVE
yINVERTED V
ySMALL ARABIC LETTER TAH AND TWO DOTS
yTHREE DOTS BELOW
bo AND THREE DOTS ABOVE
zWO DOTS VERTICALLY ABOVE
pHEEN
t FINAL FORM
uINITIAL FORM
vSOLATED FORM
uMEDIAL FORM
uWITH DOT BELOW
pTRAIGHT WAW
pUPERSCRIPT ALEF
pWASH KAF
oTAH
r FINAL FORM
sINITIAL FORM
tSOLATED FORM
sMEDIAL FORM
sWITH DOT BELOW
xTHREE DOTS ABOVE
biBELOW
yWO DOTS ABOVE
pCHEH
t FINAL FORM
uINITIAL FORM
vSOLATED FORM
uMEDIAL FORM
uWITH DOT ABOVE
zSMALL V
tEH
v FINAL FORM
wINITIAL FORM
xSOLATED FORM
wMEDIAL FORM
pEH
r FINAL FORM
sINITIAL FORM
tSOLATED FORM
sMARBUTA
z FINAL FORM
baGOAL
baISOLATED FORM
tEDIAL FORM
sWITH RING
xSMALL TEH ABOVE
bdV
xTHREE DOTS ABOVE DOWNWARDS
rEH
t FINAL FORM
uINITIAL FORM
vSOLATED FORM
uMEDIAL FORM
pHAL
s FINAL FORM
tISOLATED FORM
qEH
s FINAL FORM
tINITIAL FORM
uSOLATED FORM
tMEDIAL FORM
qIN YEH
pTEH
s FINAL FORM
tINITIAL FORM
uSOLATED FORM
tMEDIAL FORM
tWITH SMALL V
sEH
u FINAL FORM
vINITIAL FORM
wSOLATED FORM
vMEDIAL FORM
oU
p FINAL FORM
qISOLATED FORM
qWITH HAMZA ABOVE
bg ISOLATED FORM
pIGHUR KAZAKH KIRGHIZ ALEF MAKSURA INITIAL FORM
bxMEDIAL FORM
oVE
q FINAL FORM
rISOLATED FORM
qH
r FINAL FORM
sINITIAL FORM
tSOLATED FORM
sMEDIAL FORM
oWAW
r FINAL FORM
sISOLATED FORM
sWITH DOT ABOVE
bbWITHIN
xEXTENDED ARABIC-INDIC DIGIT THREE ABOVE
caWO ABOVE
xHAMZA ABOVE
bi FINAL FORM
bjISOLATED FORM
xRING
xTWO DOTS ABOVE
oYEH
r BARREE
y FINAL FORM
zISOLATED FORM
zWITH EXTENDED ARABIC-INDIC DIGIT THREE ABOVE
chWO ABOVE
beHAMZA ABOVE
bp FINAL FORM
bqISOLATED FORM
sFINAL FORM
sINITIAL FORM
tSOLATED FORM
sMEDIAL FORM
sWITH HAMZA ABOVE
bi FINAL FORM
bjINITIAL FORM
bkSOLATED FORM
bjMEDIAL FORM
xSMALL V
xTAIL
yHREE DOTS BELOW
yWO DOTS BELOW AND DOT ABOVE
bqHAMZA ABOVE
bqSMALL NOON ABOVE
pU
q FINAL FORM
rISOLATED FORM
oZAH
r FINAL FORM
sINITIAL FORM
tSOLATED FORM
sMEDIAL FORM
qIN
s FINAL FORM
tISOLATED FORM
tWITH INVERTED V ABOVE
iIGATURE AIN WITH ALEF MAKSURA FINAL FORM
bmISOLATED FORM
zJEEM INITIAL FORM
bfSOLATED FORM
beWITH MEEM FINAL FORM
boINITIAL FORM
zMEEM INITIAL FORM
bfSOLATED FORM
beWITH ALEF MAKSURA FINAL FORM
bjMEEM FINAL FORM
boINITIAL FORM
bjYEH FINAL FORM
zYEH FINAL FORM
bdISOLATED FORM
rKBAR ISOLATED FORM
rLAYHAA AS-SALAAM
vE ISOLATED FORM
vI AS-SALAAM
bfTU WAS-SALAAM
wM AS-SALAAM
xAA AS-SALAAM
sEF MAKSURA WITH SUPERSCRIPT ALEF FINAL FORM
bzISOLATED FORM
vWITH FATHATAN FINAL FORM
bjISOLATED FORM
sLAH ISOLATED FORM
rZZA WA JALL
qBEH WITH ALEF MAKSURA FINAL FORM
bmISOLATED FORM
zHAH INITIAL FORM
beSOLATED FORM
bdWITH YEH FINAL FORM
baEH INITIAL FORM
bdMEDIAL FORM
zJEEM INITIAL FORM
bfSOLATED FORM
zKHAH INITIAL FORM
bfSOLATED FORM
beWITH YEH FINAL FORM
zMEEM FINAL FORM
beINITIAL FORM
bfSOLATED FORM
beMEDIAL FORM
zNOON FINAL FORM
zREH FINAL FORM
zYEH FINAL FORM
bdISOLATED FORM
zZAIN FINAL FORM
rISMILLAH AR-RAHMAN AR-RAHEEM
qDAD WITH ALEF MAKSURA FINAL FORM
bmISOLATED FORM
zHAH INITIAL FORM
beSOLATED FORM
bdWITH ALEF MAKSURA FINAL FORM
biYEH FINAL FORM
zJEEM INITIAL FORM
bfSOLATED FORM
zKHAH INITIAL FORM
bfSOLATED FORM
beWITH MEEM FINAL FORM
boINITIAL FORM
zMEEM INITIAL FORM
bfSOLATED FORM
zREH FINAL FORM
bdISOLATED FORM
zYEH FINAL FORM
bdISOLATED FORM
qFEH WITH ALEF MAKSURA FINAL FORM
bmISOLATED FORM
zHAH INITIAL FORM
beSOLATED FORM
zJEEM INITIAL FORM
bfSOLATED FORM
zKHAH INITIAL FORM
bfSOLATED FORM
beWITH MEEM FINAL FORM
boINITIAL FORM
zMEEM INITIAL FORM
bfSOLATED FORM
beWITH YEH FINAL FORM
zYEH FINAL FORM
bdISOLATED FORM
qGHAIN WITH ALEF MAKSURA FINAL FORM
boISOLATED FORM
bbJEEM INITIAL FORM
bhSOLATED FORM
bbMEEM INITIAL FORM
bhSOLATED FORM
bgWITH ALEF MAKSURA FINAL FORM
blMEEM FINAL FORM
blYEH FINAL FORM
bbYEH FINAL FORM
bfISOLATED FORM
qHAH WITH ALEF MAKSURA FINAL FORM
bmISOLATED FORM
zJEEM INITIAL FORM
bfSOLATED FORM
beWITH YEH FINAL FORM
zMEEM INITIAL FORM
bfSOLATED FORM
beWITH ALEF MAKSURA FINAL FORM
bjYEH FINAL FORM
zYEH FINAL FORM
bdISOLATED FORM
rEH WITH ALEF MAKSURA ISOLATED FORM
zJEEM INITIAL FORM
bfSOLATED FORM
zMEEM INITIAL FORM
bfSOLATED FORM
beWITH JEEM INITIAL FORM
bjMEEM INITIAL FORM
zSUPERSCRIPT ALEF INITIAL FORM
zYEH ISOLATED FORM
qJALLAJALALOUHOU
rEEM WITH ALEF MAKSURA FINAL FORM
bnISOLATED FORM
baHAH INITIAL FORM
bfSOLATED FORM
beWITH ALEF MAKSURA FINAL FORM
bjYEH FINAL FORM
baMEEM INITIAL FORM
bgSOLATED FORM
bfWITH ALEF MAKSURA FINAL FORM
bkHAH FINAL FORM
boINITIAL FORM
bkYEH FINAL FORM
baYEH FINAL FORM
beISOLATED FORM
qKAF WITH ALEF FINAL FORM
beISOLATED FORM
beMAKSURA FINAL FORM
bmISOLATED FORM
zHAH INITIAL FORM
beSOLATED FORM
zJEEM INITIAL FORM
bfSOLATED FORM
zKHAH INITIAL FORM
bfSOLATED FORM
zLAM FINAL FORM
bdINITIAL FORM
beSOLATED FORM
bdMEDIAL FORM
zMEEM FINAL FORM
beINITIAL FORM
bfSOLATED FORM
beMEDIAL FORM
beWITH MEEM FINAL FORM
boINITIAL FORM
bjYEH FINAL FORM
zYEH FINAL FORM
bdISOLATED FORM
rHAH WITH ALEF MAKSURA FINAL FORM
bnISOLATED FORM
baHAH ISOLATED FORM
baJEEM INITIAL FORM
bgSOLATED FORM
baMEEM INITIAL FORM
bgSOLATED FORM
baYEH FINAL FORM
beISOLATED FORM
qLAM WITH ALEF FINAL FORM
beISOLATED FORM
beMAKSURA FINAL FORM
bmISOLATED FORM
beWITH HAMZA ABOVE FINAL FORM
bvISOLATED FORM
bpBELOW FINAL FORM
bvISOLATED FORM
bjMADDA ABOVE FINAL FORM
bvISOLATED FORM
zHAH INITIAL FORM
beSOLATED FORM
bdWITH ALEF MAKSURA FINAL FORM
biMEEM FINAL FORM
bnINITIAL FORM
biYEH FINAL FORM
baEH INITIAL FORM
zJEEM INITIAL FORM
bfSOLATED FORM
beWITH JEEM FINAL FORM
boINITIAL FORM
bjMEEM FINAL FORM
boINITIAL FORM
bjYEH FINAL FORM
zKHAH INITIAL FORM
bfSOLATED FORM
beWITH MEEM FINAL FORM
boINITIAL FORM
zMEEM FINAL FORM
beINITIAL FORM
bfSOLATED FORM
beMEDIAL FORM
beWITH HAH FINAL FORM
bnINITIAL FORM
bjYEH FINAL FORM
zYEH FINAL FORM
bdISOLATED FORM
qMEEM WITH ALEF FINAL FORM
bfMAKSURA ISOLATED FORM
baHAH INITIAL FORM
bfSOLATED FORM
beWITH JEEM INITIAL FORM
bjMEEM INITIAL FORM
bjYEH FINAL FORM
baJEEM INITIAL FORM
bgSOLATED FORM
bfWITH HAH INITIAL FORM
bkKHAH INITIAL FORM
bkMEEM INITIAL FORM
bkYEH FINAL FORM
baKHAH INITIAL FORM
bgSOLATED FORM
bfWITH JEEM INITIAL FORM
bkMEEM INITIAL FORM
bkYEH FINAL FORM
baMEEM FINAL FORM
bfINITIAL FORM
bgSOLATED FORM
bfWITH YEH FINAL FORM
baYEH ISOLATED FORM
rOHAMMAD ISOLATED FORM
qNOON WITH ALEF MAKSURA FINAL FORM
bnISOLATED FORM
baHAH INITIAL FORM
bfSOLATED FORM
beWITH ALEF MAKSURA FINAL FORM
bjMEEM INITIAL FORM
bjYEH FINAL FORM
bbEH INITIAL FORM
beMEDIAL FORM
baJEEM INITIAL FORM
bgSOLATED FORM
bfWITH ALEF MAKSURA FINAL FORM
bkHAH FINAL FORM
boINITIAL FORM
bkMEEM FINAL FORM
bpINITIAL FORM
bkYEH FINAL FORM
baKHAH INITIAL FORM
bgSOLATED FORM
baMEEM FINAL FORM
bfINITIAL FORM
bgSOLATED FORM
bfMEDIAL FORM
bfWITH ALEF MAKSURA FINAL FORM
bkYEH FINAL FORM
baNOON FINAL FORM
baREH FINAL FORM
baYEH FINAL FORM
beISOLATED FORM
baZAIN FINAL FORM
qQAF WITH ALEF MAKSURA FINAL FORM
bmISOLATED FORM
zHAH INITIAL FORM
beSOLATED FORM
zMEEM INITIAL FORM
bfSOLATED FORM
beWITH HAH FINAL FORM
bnINITIAL FORM
bjMEEM FINAL FORM
bjYEH FINAL FORM
zYEH FINAL FORM
bdISOLATED FORM
sLA USED AS KORANIC STOP SIGN ISOLATED FORM
rUDDISA SIRRAH
qRADI ALLAAHU ANH
bgAA
bgUM
biAA
bhNNA
sHIMAHU ALLAAH
yM ALLAAH
sSOUL ISOLATED FORM
rEH WITH SUPERSCRIPT ALEF ISOLATED FORM
qSAD WITH ALEF MAKSURA FINAL FORM
bmISOLATED FORM
zHAH INITIAL FORM
beSOLATED FORM
bdWITH HAH FINAL FORM
bmINITIAL FORM
biYEH FINAL FORM
zKHAH INITIAL FORM
zMEEM INITIAL FORM
bfSOLATED FORM
beWITH MEEM FINAL FORM
boINITIAL FORM
zREH FINAL FORM
bdISOLATED FORM
zYEH FINAL FORM
bdISOLATED FORM
sLAAMUHU ALAYNAA
uM ISOLATED FORM
tLA ISOLATED FORM
wUSED AS KORANIC STOP SIGN ISOLATED FORM
vLLAAHU ALAYHI WA-AALIH
yHOU ALAYHE WASALLAM
zU ALAYHI WAAALIHEE WA-SALLAM
rEEN WITH ALEF MAKSURA FINAL FORM
bnISOLATED FORM
baHAH INITIAL FORM
bfSOLATED FORM
beMEDIAL FORM
beWITH JEEM INITIAL FORM
bbEH INITIAL FORM
beMEDIAL FORM
baJEEM INITIAL FORM
bgSOLATED FORM
bfMEDIAL FORM
bfWITH ALEF MAKSURA FINAL FORM
bkHAH INITIAL FORM
baKHAH INITIAL FORM
bgSOLATED FORM
bfMEDIAL FORM
bfWITH ALEF MAKSURA FINAL FORM
bkYEH FINAL FORM
baMEEM INITIAL FORM
bgSOLATED FORM
bfMEDIAL FORM
bfWITH HAH FINAL FORM
boINITIAL FORM
bkJEEM INITIAL FORM
bkMEEM FINAL FORM
bpINITIAL FORM
baREH FINAL FORM
beISOLATED FORM
baYEH FINAL FORM
beISOLATED FORM
rHADDA WITH DAMMA ISOLATED FORM
biMEDIAL FORM
bhTAN ISOLATED FORM
bcFATHA ISOLATED FORM
biMEDIAL FORM
bcKASRA ISOLATED FORM
biMEDIAL FORM
bhTAN ISOLATED FORM
bcSUPERSCRIPT ALEF ISOLATED FORM
sEEN WITH ALEF MAKSURA FINAL FORM
boISOLATED FORM
bbHAH FINAL FORM
bfINITIAL FORM
bgSOLATED FORM
bfMEDIAL FORM
bfWITH MEEM FINAL FORM
bpINITIAL FORM
bkYEH FINAL FORM
bcEH INITIAL FORM
bfMEDIAL FORM
bbJEEM FINAL FORM
bgINITIAL FORM
bhSOLATED FORM
bgMEDIAL FORM
bgWITH YEH FINAL FORM
bbKHAH FINAL FORM
bgINITIAL FORM
bhSOLATED FORM
bgMEDIAL FORM
bbMEEM FINAL FORM
bgINITIAL FORM
bhSOLATED FORM
bgMEDIAL FORM
bgWITH KHAH FINAL FORM
bqINITIAL FORM
blMEEM FINAL FORM
bqINITIAL FORM
bbREH FINAL FORM
bfISOLATED FORM
bbYEH FINAL FORM
bfISOLATED FORM
rUBHAANAHU WA TAAALAA
qTABAARAKA WA-TAAALAA
sH WITH ALEF MAKSURA FINAL FORM
bmISOLATED FORM
zHAH INITIAL FORM
beSOLATED FORM
zMEEM INITIAL FORM
bfSOLATED FORM
beMEDIAL FORM
beWITH HAH FINAL FORM
bnINITIAL FORM
bjMEEM INITIAL FORM
bjYEH FINAL FORM
zYEH FINAL FORM
bdISOLATED FORM
rEH WITH ALEF MAKSURA FINAL FORM
bmISOLATED FORM
zHAH INITIAL FORM
beSOLATED FORM
bdWITH JEEM FINAL FORM
bnINITIAL FORM
biMEEM INITIAL FORM
baEH INITIAL FORM
bdMEDIAL FORM
zJEEM INITIAL FORM
bfSOLATED FORM
beWITH ALEF MAKSURA FINAL FORM
bjMEEM INITIAL FORM
bjYEH FINAL FORM
zKHAH INITIAL FORM
bfSOLATED FORM
beWITH ALEF MAKSURA FINAL FORM
bjMEEM INITIAL FORM
bjYEH FINAL FORM
zMEEM FINAL FORM
beINITIAL FORM
bfSOLATED FORM
beMEDIAL FORM
beWITH ALEF MAKSURA FINAL FORM
bjHAH INITIAL FORM
bjJEEM INITIAL FORM
bjKHAH INITIAL FORM
bjYEH FINAL FORM
zNOON FINAL FORM
zREH FINAL FORM
zYEH FINAL FORM
bdISOLATED FORM
zZAIN FINAL FORM
rHAL WITH SUPERSCRIPT ALEF ISOLATED FORM
sEH WITH ALEF MAKSURA FINAL FORM
bnISOLATED FORM
baHEH MEDIAL FORM
baJEEM ISOLATED FORM
baMEEM FINAL FORM
bfINITIAL FORM
bgSOLATED FORM
bfMEDIAL FORM
baNOON FINAL FORM
baREH FINAL FORM
baYEH FINAL FORM
beISOLATED FORM
baZAIN FINAL FORM
qUIGHUR KIRGHIZ YEH WITH HAMZA ABOVE WITH ALEF MAKSURA FINAL FORM
csINITIAL FORM
ctSOLATED FORM
qWASALLAM ISOLATED FORM
qYEH WITH ALEF MAKSURA FINAL FORM
bmISOLATED FORM
zHAH INITIAL FORM
beSOLATED FORM
bdWITH YEH FINAL FORM
bbMZA ABOVE WITH AE FINAL FORM
btISOLATED FORM
brLEF FINAL FORM
bvISOLATED FORM
bvMAKSURA FINAL FORM
cdISOLATED FORM
bqE FINAL FORM
bsINITIAL FORM
btSOLATED FORM
bqHAH INITIAL FORM
bvSOLATED FORM
brEH INITIAL FORM
buMEDIAL FORM
bqJEEM INITIAL FORM
bwSOLATED FORM
bqKHAH INITIAL FORM
bqMEEM FINAL FORM
bvINITIAL FORM
bwSOLATED FORM
bvMEDIAL FORM
bqNOON FINAL FORM
bqOE FINAL FORM
btISOLATED FORM
bqREH FINAL FORM
bqU FINAL FORM
bsISOLATED FORM
bqWAW FINAL FORM
buISOLATED FORM
bqYEH FINAL FORM
buISOLATED FORM
brU FINAL FORM
btISOLATED FORM
bqZAIN FINAL FORM
baEH INITIAL FORM
bdMEDIAL FORM
zJEEM INITIAL FORM
bfSOLATED FORM
beWITH YEH FINAL FORM
zKHAH INITIAL FORM
bfSOLATED FORM
zMEEM FINAL FORM
beINITIAL FORM
bfSOLATED FORM
beMEDIAL FORM
beWITH MEEM FINAL FORM
boINITIAL FORM
bjYEH FINAL FORM
zNOON FINAL FORM
zREH FINAL FORM
zYEH FINAL FORM
bdISOLATED FORM
zZAIN FINAL FORM
qZAH WITH MEEM INITIAL FORM
bfSOLATED FORM
beMEDIAL FORM
hMADDA WAAJIB
mH ABOVE
jRK NOON GHUNNA
mSIDEWAYS NOON GHUNNA
jTHEMATICAL AIN
vLEF
uBEH
uDAD
wL
vOTLESS BEH
bcFEH
bcNOON
bcQAF
wUBLE-STRUCK AIN
biBEH
biDAD
bkL
biFEH
biGHAIN
biHAH
biJEEM
biKHAH
biLAM
biMEEM
biNOON
biQAF
biREH
biSAD
bjEEN
bjHEEN
biTAH
bjEH
bjHAL
bkEH
biWAW
biYEH
biZAH
bkIN
uFEH
uGHAIN
uHAH
uINITIAL AIN
bcBEH
bcDAD
bcFEH
bcGHAIN
bcHAH
bdEH
bcJEEM
bcKAF
bdHAH
bcLAM
bcMEEM
bcNOON
bcQAF
bcSAD
bdEEN
bdHEEN
bcTEH
bdHEH
bcYEH
uJEEM
uKAF
vHAH
uLAM
vOOPED AIN
bcLEF
bbBEH
bbDAD
bdL
bbFEH
bbGHAIN
bbHAH
bcEH
bbJEEM
bbKHAH
bbLAM
bbMEEM
bbNOON
bbQAF
bbREH
bbSAD
bcEEN
bcHEEN
bbTAH
bcEH
bcHAL
bdEH
bbWAW
bbYEH
bbZAH
bdIN
uMEEM
uNOON
uOPERATOR HAH WITH DAL
bdMEEM WITH HAH WITH TATWEEL
uQAF
uREH
uSAD
vEEN
vHEEN
vTRETCHED AIN
beBEH
beDAD
bfOTLESS BEH
bmFEH
beFEH
beGHAIN
beHAH
bfEH
beJEEM
beKAF
bfHAH
beMEEM
beNOON
beQAF
beSAD
bfEEN
bfHEEN
beTAH
bfEH
bfHEH
beYEH
beZAH
uTAH
wILED AIN
bbDAD
bcOTLESS NOON
bjQAF
bbGHAIN
bbHAH
bbJEEM
bbKHAH
bbLAM
bbNOON
bbQAF
bbSAD
bcEEN
bcHEEN
bbYEH
vEH
vHAL
wEH
uWAW
uYEH
uZAH
wIN
hNUMBER MARK ABOVE
oSIGN
hOPEN DAMMATAN
mFATHATAN
mKASRATAN
hPERCENT SIGN
iIASTRE MARK ABOVE
iLACE OF SAJDAH
iOETIC VERSE SIGN
jUND MARK ABOVE
hQUESTION MARK
hRAISED ROUND DOT
jY
iEVERSED DAMMA
iIGHT ARROWHEAD ABOVE
bc WITH DOT
xBELOW
iOUNDED HIGH STOP WITH FILLED CENTRE
hSEMICOLON
iHADDA
n ISOLATED FORM
oMEDIAL FORM
iIGN ALAYHE ASSALLAM
mMISRA
mRADI ALLAHOU ANHU
oHMATULLAH ALAYHE
mSAFHA
oLLALLAHOU ALAYHE WASSALLAM
oMVAT
oNAH
nINDHI AMPERSAND
tPOSTPOSITION MEN
mTAKHALLUS
iMALL DAMMA
nFARSI YEH
pTHA
nHIGH AIN
sDOTLESS HEAD OF KHAH
sFARSI YEH
tOOTNOTE MARKER
sJEEM
sLAM ALEF
tIGATURE ALEF WITH LAM WITH YEH
bbQAF WITH LAM WITH ALEF MAKSURA
bbSAD WITH LAM WITH ALEF MAKSURA
sMADDA
tEEM INITIAL FORM
ySOLATED FORM
sNOON
w WITH KASRA
sQAF
sROUNDED ZERO
sSAD
tEEN
tIGN SAFHA
sTAH
tHREE DOTS
sUPRIGHT RECTANGULAR ZERO
sWAW
tORD AL-JUZ
yN-NISF
yR-RUB
yS-SAJDA
yTH-THALATHA
xQIF
xSAH
zKTA
xWAQFA
sYEH
v BARREE WITH TWO DOTS BELOW
sZAH
uIN
nKASRA
nLOW MEEM
rNOON WITH KASRA
rSEEN
rWAW
sORD IMAALA
xSHMAAM
wTASHEEL
nWAW
nYEH
iTART OF RUB EL HIZB
iUBSCRIPT ALEF
jKUN
m BELOW
nISOLATED FORM
nMEDIAL FORM
jPERSCRIPT ALEF MOKHASSAS
iYMBOL DOT ABOVE
sBELOW
qUBLE VERTICAL BAR BELOW
oFOUR DOTS ABOVE
yBELOW
oRING
oSMALL TAH ABOVE
yBELOW
oTHREE DOTS ABOVE
zBELOW
zPOINTING DOWNWARDS ABOVE
bsBELOW
pWO DOTS ABOVE
xBELOW
xVERTICALLY ABOVE
biBELOW
oWASLA ABOVE
hTAIL FRAGMENT
jTWEEL
o WITH FATHATAN ABOVE
uOVERSTRUCK HAMZA
bfWAW
uTWO DOTS BELOW
iHOUSANDS SEPARATOR
iONE LOOP ABOVE
rBELOW
mONE DOT ABOVE
uBELOW
mTWO DOTS ABOVE
vBELOW
iRIPLE DOT PUNCTUATION MARK
iURNED DAMMA BELOW
hVERTICAL TAIL
iOWEL SIGN DOT BELOW
sINVERTED SMALL V ABOVE
sSMALL V ABOVE
hWAVY HAMZA BELOW
hZWARAKAY
g-INDIC CUBE ROOT
nDIGIT EIGHT
tFIVE
uOUR
tNINE
tONE
tSEVEN
uIX
tTHREE
uWO
tZERO
nFOURTH ROOT
nPER MILLE SIGN
rTEN THOUSAND SIGN
cC
cIES
cMENIAN ABBREVIATION MARK
kPOSTROPHE
jCAPITAL LETTER AYB
yBEN
yCA
zHA
baEH
zO
yDA
yECH
zH
zT
yFEH
yGHAD
zIM
yHO
yINI
yJA
zHEH
yKEH
baN
yLIWN
yMEN
yNOW
yOH
yPEH
zIWR
yRA
zEH
ySEH
zHA
yTIWN
zO
yVEW
zO
yXEH
yYI
baWN
yZA
zHE
kOMMA
jDRAM SIGN
jEMPHASIS MARK
kXCLAMATION MARK
jFULL STOP
jHYPHEN
jMODIFIER LETTER LEFT HALF RING
jQUESTION MARK
jSMALL LETTER AYB
wBEN
wCA
xHA
yEH
xO
wDA
wECH
xH
xT
wFEH
wGHAD
xIM
wHO
wINI
wJA
xHEH
wKEH
yN
wLIWN
wMEN
wNOW
wOH
wPEH
xIWR
wRA
xEH
wSEH
xHA
wTIWN
xO
xURNED AYB
wVEW
xO
wXEH
wYI
y WITH STROKE
yWN
wZA
xHE
qIGATURE ECH YIWN
yMEN ECH
bcINI
bcNOW
bcXEH
yVEW NOW
cROW POINTING DOWNWARDS THEN CURVING LEFTWARDS
bmRIGHTWARDS
pRIGHTWARDS THEN CURVING DOWNWARDS
bnSOUTH WEST
bnUPWARDS
pUPWARDS THEN NORTH WEST
fHEAD-SHAPED POINTER
cTICULATED LORRY
eST PALETTE
bSCENDING NODE
dIA SYMBOL
cSERTION
cTERISK
i OPERATOR
hM
dONISHED FACE
dRAEA
eONOMICAL SYMBOL FOR URANUS
cYMPTOTICALLY EQUAL TO
bTHLETIC SHOE
cOM SYMBOL
bUBERGINE
cSTRAL SIGN
cTO RICKSHAW
eMATED TELLER MACHINE
fOBILE
bVESTAN ABBREVIATION MARK
iLETTER A
qA
rN
rO
qE
rE
qN
qO
pBE
qHE
pCE
pDE
qHE
pE
qE
pFE
pGE
qGE
qHE
pHE
qME
pI
qI
pJE
pKE
pLE
pME
pNE
qGE
rVE
rYE
qNE
qYE
pO
qO
pPE
pRE
pSE
qHE
rYE
qSHE
pTE
qHE
qTE
pU
qU
pVE
pXE
qVE
qYE
pYE
qYE
pZE
qHE
cOCADO
bXE
aBABY
e ANGEL
fBOTTLE
fCHICK
fSYMBOL
cCK OF ENVELOPE
fWITH LEFTWARDS ARROW ABOVE
e-TILTED SHADOWED WHITE RIGHTWARDS ARROW
eSLANTED SOUTH ARROW WITH HOOKED TAIL
bfRIZONTAL TAIL
fPACE
dON
dTRIAN CAMEL
cDGER
dMINTON RACQUET AND SHUTTLECOCK
cGEL
dGAGE CLAIM
dUETTE BREAD
cLINESE ADEG ADEG
jCARIK PAMUNGKAH
rREREN
pSIKI
jDIGIT EIGHT
pFIVE
qOUR
pNINE
pONE
pSEVEN
qIX
pTHREE
qWO
pZERO
jLETTER AIKARA
rKARA
v TEDUNG
rRCHAIC JNYA
rSYURA SASAK
qBA
s KEMBANG
qCA
s LACA
qDA
s MADU
uURDA ALPAPRANA
zMAHAPRANA
qEF SASAK
rKARA
qGA
s GORA
qHA
qIKARA
v TEDUNG
qJA
s JERA
qKA
s MAHAPRANA
sF SASAK
rHOT SASAK
qLA
s LENGA
y TEDUNG
qMA
qNA
s RAMBAT
rGA
rYA
qOKARA
v TEDUNG
qPA
s KAPAL
qRA
s REPA
x TEDUNG
qSA
s SAGA
vPA
qTA
s LATIK
tMURDA MAHAPRANA
tTAWA
rZIR SASAK
qUKARA
v TEDUNG
qVE SASAK
qWA
qYA
qZAL SASAK
jMUSICAL SYMBOL COMBINING BENDE
biENDEP
biGONG
biJEGOGAN
biKEMPLI
bo WITH JEGOGAN
bmUL
bo WITH JEGOGAN
biTEGEH
yDAENG
baING
baNG
bc GEDE
bdSURANG
zENG
baUNG
zING
zONG
zUNG
yLEFT-HAND CLOSED PLAK
brUK
biOPEN PANG
boING
boUNG
yRIGHT-HAND CLOSED TAK
brUK
bjOPEN DAG
bpUG
jPAMADA
p LANTANG
mENENG
lNTI
o LANTANG
jSIGN BISAH
oCECEK
oREREKAN
oSURANG
oULU CANDRA
sRICEM
jVOWEL SIGN LA LENGA
bc TEDUNG
uPEPET
z TEDUNG
uRA REPA
bb TEDUNG
uSUKU
y ILUT
uTALING
ba REPA
bf TEDUNG
bbTEDUNG
vEDUNG
uULU
x SARI
jWINDU
dL OF YARN
eET SHOES
eOON
h-SPOKED ASTERISK
fT BOLD SCRIPT X
jX
k WITH BALLOT
rOLD CHECK
vSCRIPT X
qCHECK
qLIGHT X
qSCRIPT X
qX
hSCRIPT X
hX
cMUM COLON
iMBINING MARK KOQNDON
vTUKWENTIS
jMA
gFULL STOP
gLETTER A
nEE
nFAAMAE
oEE
oOM
oU
nI
nKA
oEN
pT
pUX
oI
oO
pGHOM
pVUU
oPA
oU
oYEE
nLA
oEEEE
oI
oOQ
oU
nM
oA
oBAA
pEN
oEEEE
pN
oI
oO
oU
nNA
oDAA
oGA
pGA
pKWAEN
oI
oJAEM
pEE
pUAE
oSHA
oTEE
pUU
oU
pAE
oYI
nO
nPA
oEE
pUX
oHASE-A FIRI
vGBIEE FON
wHEUAEGHEUAE
bbRAE
vKAFA
xQ
wET
xUKEUTNDA
wPOQ
wUOQ
vLAPAQ
wET KUT
wOMMAE
wU
xAEP
vMAEKEUP
yM
zBGBIEE
zKPEN
zVEUX
yNYI
ySI
xNSUAE
xP PIEET
wBANYI
yQ
wEUNJOMNDEUQ
wGBASA
wON NGGEUAET
xOMEUT
zPUQ
wVEUAENGAM
vNAA MFON
xQ
wDA LEERAEWA
yANGGEUAET
wEN
wGANGU
xGEN
xKUE MFON
baNZEUM
wIKA
wJAM
wKAARAE
xINDI
wSHA
yIEE
wTAP
z MFAA
baNTAA
xOQPEN
wYET
xI
yT MONGKEUAEQ
wZA MFON
xUN MEUT
vPA LEERAEWA
xAM
yRAE
xMSHAE
xSHAE
wET
wON MFON PIPAEMBA
bkGBIEE
zPA NJI PIPAEMBA
bmGBIEE
wUP
vROM
vSEUNYAM
wHINDA PA NJI
yRAE
xOQ NSHUT YUM
xUENSHUET
yM
wISA
wONJAM
xQ
xT
wUU
vTEUAEN
yTEUWEN
wITA MFON
wU MAEMBA
xAEP
vU YUQ NAE
wNKNOWN
vVEE
tB FEE
xUX
vGHEUGHEN
bcUAEM
vKAM
wEUAEM
yPUQ
yYEUX
wIEEM
xQ
vLAANAE
xM NSHUT NYAM
wET
wOM NTEUM
vMA
x NJEUAENA
baUQA
wBA MAELEE
yARAE
xEURI
xIT MBAAKET
xUOQ
wEUQ
yT NGGEET
wFIYAQ
xON TEUAEQ
wONTIEEN
vNDU NJAA
wGGAAM
yEU MBU
yUOQ
bb LARGE
xKINDI MVOP
xOM
wSEN
xHUET
wTIEE SHEUOQ
wYAEMAE
xI NTEUM
vPARUM
wEESHI
wIT
wUNGAAM
vSAKEUAE
wET TU
wHET NJAQ
yUAEQTU
wIEE
wUE
vTAAM
wU MAEMGBIEE
yNSIEE
vVEUM
vWUAET
vYAFU LEERAEWA
wEURAE
tC BUNG
vFUE
vGBAYI
wHAP
yRAE
vKAA
wEN FATIGUE
zLAW
xT
xUKAQ
yM
ySEUX
zHEUAEP
wPARAQ
wUOP NKAARAE
xT
vLAM
xP
wIQ
wU
vMA KEUAERI
yNSIEE
xEMBA
ySI
wBAA CABBAGE-TREE
baPICKET
yNYI
xEEKEET
yRAE
yUM
zX
xI
yRIEEN
yT
xUAEM
yE
wGBASAQ
wIEE
wUAE
vNANSANAQ
xQ
wDAM
yP
xEUAEREE
zT
xIDA
xOMBU
wGAQ
xGEN
yU
zAEN NYAM
zEET
zM
zON
xKAQ
yUE MAEMBA
xOM
wJAEM
yM
xEEEE
yUX
xUEQ
wSA
xEUAEN
xHAQ
xOM
xUN
yOT NGOM
wTAA
xEN
yUNGBA
xU MBIT
wYIR MKPARAQ MEUN
wZA
xEUM
vPEN
wIN
xRIEEN
vRU
vSETFON
xUX
wHIQ
xUEQ
wUAET
vTAASHAE
wET
xUTEUX
wITA YUE
yUAEP
vVEUAEPEN
yX
vWANGKUOQ
wUP
vYAA
wEUQ
wU MUOMAE
xM
xWOQ
tD FAA
wEUFEUAET
vGHAA
xEUAE
vKET
xUAETMEUN
yM
yOT MBUAE
yP
wU
xN
xOM
xQ
wWAET
wYEE
vLEEEE
xT
xUAEP
yM
wIEE
wOQ
wUM
vM
wAENJET
xLEERI
wBAA
z SEVEN
xUO
wEEEE
xUN
yT
wFEUAE
zT
xIEE
xO
yN
wGBEUN
yIEE
yOFUM
wONI
wU
wVOP
vNDAM
xEE
yUX
xON
wGGAAM
bbAE
zP
yEUX
yUOM
yWAEN
xKAP
yEUAEQ
baRI
yIEE
yUN
yYEE
wI
wJAP
xEUAEM
zT
xI
yEE
xUEQ
wSHEE
yUT
xIEEP
baT
xUM
wTEE
yUM
xUU
wU
wYAM
xET
xI
xUE
vPAP
wEE
xUTAE
wIP
wUQ
xUT
vRAEM
wEN MUCH
zOLD
wII
vSAP
xQ
wEUAEQ
wHEE
yUAE
zX
xII
xOQ
xU
wOT
wUAE
xE
xU
vTAE
wEEEE
xUAEN
yN
yT
wI
wOQ
wU
xOT
vWAP
wUAEN
vYAEMMAE
wEN
wUOM
yP
xWOQ
tE A
vFA
xQ
wEE
wOM
wU CALL
yI
yREMEDY
xE
yT
vGBET
yUX
wHAAMAE
xET
yUAE
zN
zX
xOM
vI
vKET
xUAE
yX
wI
wO
wPEUX
wUET
xOP
xT
vLAAM
xP
xQ
wEUAEM
wOM
xON
yT
xQ
wU
vMA
xE
yM
xP
xQ
wBEE
yUM
wEN
wFEUQ
wGBA
yEN
wI
xEE
wON
wUAE
wVI
vNA
xE
wDAA MY HOUSE
baSOFTNESS
yP
xIAQ
yQ
xUN
wGA
xEUREUT
xGEEEE
zUAE
bcT
yUAESHAE NYAM
zP
zRAE
xKA
zAMI
yEUAEM
baX
yUM
zP
xOP
yQ
xUAE
baT
wJAEMLI
xEE
z EPOCH
yUX
wKOM
wSHIEE
yUE
zOP
wTAP
xUM
wYI BETWEEN
zCLEAVER
wZAQ
xUQ
vO
vPA PEOPLE
zLURAL
xA
yM
wEEM
xUT
yX
wI
xEEQ
yT
wO
xON
wU
xAE
yQ
xE
xM
vRAE
xQ
wEUX
wIMGBA
vSAA
wEE
xT
wHEUAEQ
xIQ
xO
yQ
wOM
wUAEN
vTAA
yQ
xEN NTEUM
xM
xQ
wEN
xU
yAEQ
wOO
yN
xQ
wUAE
xM
yAE
vVEE
xUAE
wOM
vWEUX
wUE
xO
vYAP
wEUAE
baT
yM
yX
wIEE
xT
wOQ COVER
zSWIMMING
wUAEN
xEQ
xN
xQ
tF EE
vFOM
vKA
wEN
xT
wO
wPA
wU
wYEE
vLA
wI
wOQ
vM
wA
wBAA
xEN
wEEEE
wO
vNDAA
wGGA
xKWAEN
wI
wJAEM
xUAE
wSHA
wTEE
wU
xAE
wYI
vPEE
xUX
wUAE
vREE
xN
xUX
wIEE
xI
wU
vSAMBA
wEUX
wHII
xO
xU
wI
wUU
vTAA
xE
wET
vU
vVUEQ
vWA
wUE
vYA
wOQ
oI
oUAE
pE
nRAE
oEE
pN
pUX
oIEE
pI
oU
nSAMBA
oEUX
oHEUX
pII
pO
pU
oI
oUU
nTAA
pE
oEN
pT
oI
nU
nWA
oUE
nYA
oOQ
oUQ
gNJAEMLI
gQUESTION MARK
gSEMICOLON
cNANA
dJO
dK
eNOTE WITH DOLLAR SIGN
oEURO SIGN
oPOUND SIGN
oYEN SIGN
cR CHART
eOF SOAP
dBER POLE
cSEBALL
dKET
gBALL AND HOOP
dSA VAH COMBINING HIGH TONE
y-LOW TONE
uLOW TONE
x-MID TONE
uMID TONE
kFULL STOP
kLETTER A
rBA
rCE
rDHII
sO
rE
sE
sNNI
rFA
rGAH
sBU
rHWAH
rI
rJO
rKA
sPAH
rMBE
rO
sO
rPA
rSE
rTO
rU
sWU
rVU
rWA
tDDA
rYEIN
sIE
rZO
cT
dAK CONSONANT SIGN H
vNG
gLETTER A
nBA
nCA
nDA
nGA
nHA
nI
nJA
nKARO BA
nLA
nMA
pNDAILING HA
yNA
ySA
oBA
nNA
oDA
oGA
oORTHERN TA
oYA
nPA
pKPAK WA
nRA
nSA
oIMALUNGUN A
yGA
yHA
yLA
yMA
yPA
yRA
ySA
yWA
yYA
oOUTHERN TA
nU
nWA
nYA
gPANGOLAT
jONGONAN
gSIGN TOMPI
hYMBOL BINDU JUDUL
tNA METEK
tPANGOLAT
uINARBORAS
gVOWEL SIGN E
sE
rI
rKARO I
wO
rO
rPAKPAK E
rU
s FOR SIMALUNGUN SA
dH
eTUB
dTERY
bEACH WITH UMBRELLA
dMED ASCENDING MUSICAL NOTES
hDESCENDING MUSICAL NOTES
hEIGHTH NOTES
hSIXTEENTH NOTES
dNS
dR FACE
eDED PERSON
dTING HEART
dVER
cCAUSE
cD
cER MUG
dTLE
cL
dL
e PEPPER
fSYMBOL
fWITH CANCELLATION STROKE
eHOP BELL
cNGALI ABBREVIATION SIGN
jNJI
jU LENGTH MARK
iCURRENCY DENOMINATOR SIXTEEN
rNUMERATOR FOUR
bbONE
be LESS THAN THE DENOMINATOR
bbTHREE
bcWO
iDIGIT EIGHT
oFIVE
pOUR
oNINE
oONE
oSEVEN
pIX
oTHREE
pWO
oZERO
iGANDA MARK
iISSHAR
iLETTER A
qA
qI
qU
pBA
qHA
pCA
qHA
pDA
qDA
rHA
qHA
pE
pGA
qHA
pHA
pI
qI
pJA
qHA
pKA
qHA
sNDA TA
pLA
pMA
pNA
qGA
qNA
qYA
pO
pPA
qHA
pRA
r WITH LOWER DIAGONAL
xMIDDLE DIAGONAL
qHA
qRA
pSA
qHA
qSA
pTA
qHA
qTA
rHA
pU
qU
pVEDIC ANUSVARA
qOCALIC L
yL
xR
yR
pYA
qYA
iRUPEE MARK
oSIGN
iSANDHI MARK
jIGN ANUSVARA
oVAGRAHA
nCANDRABINDU
nNUKTA
nVIRAMA
pSARGA
iVOWEL SIGN AA
uI
uU
tE
tI
uI
tO
tU
uU
tVOCALIC L
bcL
bbR
bcR
dT ARROW POINTING DOWNWARDS THEN NORTH EAST
eO BOX
dZENE RING
m WITH CIRCLE
cT SYMBOL
dWEEN
cVERAGE BOX
bHAIKSUKI DANDA
lIGIT EIGHT
qFIVE
rOUR
qNINE
qONE
qSEVEN
rIX
qTHREE
rWO
qZERO
lOUBLE DANDA
kGAP FILLER-1
v2
kHUNDREDS UNIT MARK
kLETTER A
sA
sI
sU
rBA
sHA
rCA
sHA
rDA
sDA
tHA
sHA
rE
rGA
sHA
rHA
rI
sI
rJA
sHA
rKA
sHA
rLA
rMA
rNA
sGA
sNA
sYA
rO
rPA
sHA
rRA
rSA
sHA
sSA
rTA
sHA
sTA
tHA
rU
sU
rVA
sOCALIC L
zR
baR
rYA
kNUMBER EIGHT
wY
rFIFTY
tVE
sORTY
tUR
rNINE
vTY
rONE
rSEVEN
wTY
sIX
uTY
rTEN
sHIRTY
tREE
sWENTY
tO
kSIGN ANUSVARA
qVAGRAHA
pCANDRABINDU
pVIRAMA
rSARGA
kVOWEL SIGN AA
wI
wU
vE
vI
wI
vO
vU
wU
vVOCALIC L
bdR
beR
kWORD SEPARATOR
bICYCLE
gIST
cG REVERSE SOLIDUS
eSOLIDUS
cKINI
cLLED CAP
eIARDS
cOHAZARD SIGN
cRD
dTHDAY CAKE
cSON
cTCOIN SIGN
dING LIP
bLACK BOWTIE
gCENTRE WHITE STAR
hHESS BISHOP
s ROTATED NINETY DEGREES
bbTWO HUNDRED SEVENTY DEGREES
mEQUIHOPPER
w ROTATED NINETY DEGREES
mKING
q ROTATED NINETY DEGREES
zTWO HUNDRED SEVENTY DEGREES
nNIGHT
s ROTATED FORTY-FIVE DEGREES
bbNINETY DEGREES
bbONE HUNDRED THIRTY-FIVE DEGREES
bbTHREE HUNDRED FIFTEEN DEGREES
bcWO HUNDRED SEVENTY DEGREES
bnTWENTY-FIVE DEGREES
s-BISHOP
tQUEEN
tROOK
mPAWN
q ROTATED NINETY DEGREES
zTWO HUNDRED SEVENTY DEGREES
mQUEEN
r ROTATED NINETY DEGREES
baTWO HUNDRED SEVENTY DEGREES
mROOK
q ROTATED NINETY DEGREES
zTWO HUNDRED SEVENTY DEGREES
mTURNED BISHOP
tKING
uNIGHT
tPAWN
tQUEEN
tROOK
hIRCLE
m FOR RECORD
nWITH DOWN ARROW
sTWO WHITE DOTS
sWHITE DOT RIGHT
hLUB SUIT
hROSS ON SHIELD
hURVED DOWNWARDS AND LEFTWARDS ARROW
bbRIGHTWARDS ARROW
nLEFTWARDS AND DOWNWARDS ARROW
bbUPWARDS ARROW
nRIGHTWARDS AND DOWNWARDS ARROW
bcUPWARDS ARROW
nUPWARDS AND LEFTWARDS ARROW
zRIGHTWARDS ARROW
gDIAMOND
n CENTRED
oMINUS WHITE X
oON CROSS
oSUIT
oWITH DOWN ARROW
hOWN POINTING BACKHAND INDEX
k-POINTING DOUBLE TRIANGLE
uISOSCELES RIGHT TRIANGLE
uSMALL TRIANGLE
uTRIANGLE
kWARDS EQUILATERAL ARROWHEAD
hRAUGHTS KING
pMAN
iOPLET
gFLAG
iORETTE
hOLDER
iUR POINTED STAR
gHARD SHELL FLOPPY DISK
hEART
l SUIT
iXAGON
hORIZONTAL ELLIPSE
iURGLASS
gLARGE CIRCLE
mSQUARE
hEFT LANE MERGE
lPOINTING BACKHAND INDEX
uINDEX
k-POINTING DOUBLE TRIANGLE
bj WITH VERTICAL BAR
uISOSCELES RIGHT TRIANGLE
uPOINTER
uSMALL TRIANGLE
uTRIANGLE
kWARDS BULLET
qEQUILATERAL ARROWHEAD
hOWER LEFT TRIANGLE
mRIGHT TRIANGLE
iZENGE
gMEDIUM DIAMOND
oOWN-POINTING TRIANGLE
bj CENTRED
nLEFT-POINTING TRIANGLE
bj CENTRED
oOZENGE
nRIGHT-POINTING TRIANGLE
bk CENTRED
nSMALL DIAMOND
tLOZENGE
tSQUARE
oQUARE
nUP-POINTING TRIANGLE
bh CENTRED
hOON LILITH
gNIB
gOCTAGON
gPARALLELOGRAM
hENNANT
jTAGON
hUSHPIN
gQUESTION MARK ORNAMENT
gRECTANGLE
hIGHT POINTING BACKHAND INDEX
vINDEX
l-POINTING DOUBLE TRIANGLE
bk WITH VERTICAL BAR
vISOSCELES RIGHT TRIANGLE
vPENTAGON
wOINTER
vSMALL TRIANGLE
vTRIANGLE
bd WITH DOUBLE VERTICAL BAR
lWARDS ARROW
wHEAD
rBULLET
rEQUILATERAL ARROWHEAD
hOSETTE
gSAFETY SCISSORS
hCISSORS
hHOGI PIECE
hKULL AND CROSSBONES
hLIGHTLY SMALL CIRCLE
vSQUARE
hMALL DIAMOND
mLOZENGE
mSQUARE
nTAR
iILING FACE
hNOWMAN
hPADE SUIT
hQUARE
m BUTTON
nCENTRED
nFOR STOP
hTAR
hUN WITH RAYS
gTELEPHONE
hINY DIAMOND
lLOZENGE
lSQUARE
hOUCHTONE TELEPHONE
hRUCK
hWO-WAY LEFT WAY TRAFFIC
gUNIVERSAL RECYCLING SYMBOL
hP POINTING BACKHAND INDEX
i-POINTING DOUBLE TRIANGLE
sISOSCELES RIGHT TRIANGLE
sSMALL TRIANGLE
sTRIANGLE
iPER LEFT TRIANGLE
mRIGHT TRIANGLE
iWARDS EQUILATERAL ARROWHEAD
gVERTICAL ELLIPSE
pRECTANGLE
jY SMALL DIAMOND
rLOZENGE
rSQUARE
f-FEATHERED NORTH EAST ARROW
qRIGHTWARDS ARROW
qSOUTH EAST ARROW
gLETTER CAPITAL C
vH
vI
vR
vZ
dNK SYMBOL
cOCK SEXTANT-1
p2
q3
r4
s5
s6
r5
s6
r6
q4
r5
s6
r6
q5
r6
q6
p3
q4
r5
s6
r6
q56
q6
p4
q5
r6
q6
p5
q6
p6
o2
p3
q4
r5
s6
r6
q5
r6
q6
p4
q5
r6
p5
q6
p6
o3
p4
q5
r6
q6
p5
q6
p6
o4
p5
q6
p6
o5
p6
o6
dSSOM
dWFISH
cUE BOOK
fHEART
eBERRIES
bOAR
cLD EIGHT SPOKED ASTERISK
fFIVE SPOKED ASTERISK
fGREEK CROSS
fSALTIRE
gIX SPOKED ASTERISK
fWHITE CIRCLE
lSQUARE
cM
dB
cNE
cOK
eMARK
i TABS
eS
dMERANG
cPOMOFO FINAL LETTER G
wH
wK
wP
wT
jLETTER A
rH
rI
sNN
rM
rN
sG
sN
rU
sNN
qB
rU
qC
rH
qD
qE
rE
rH
rI
rN
sG
sN
rR
qF
qG
rH
rN
rU
rW
qH
qI
rH
rM
rNN
tN
rR
rU
qJ
rI
qK
rW
qL
rH
qM
qN
rG
sG
rN
qO
r WITH DOT ABOVE
rE
rM
rNG
sN
rO
rU
qP
qQ
qR
qS
rH
qT
qU
rNN
qV
qX
qZ
rH
rI
rY
cTTLE WITH POPPING CORK
eOM ARC ANTICLOCKWISE ARROW
hCURLY BRACKET
hHALF BLACK CIRCLE
mINTEGRAL
mLEFT PARENTHESIS
mRIGHT PARENTHESIS
hLEFT CORNER
nROP
mHALF BRACKET
hPARENTHESIS
hRIGHT CORNER
oROP
nHALF BRACKET
hSQUARE BRACKET
v OVER TOP SQUARE BRACKET
hTORTOISE SHELL BRACKET
cUQUET
h OF FLOWERS
cW AND ARROW
dL OF HYGIEIA
fWITH SPOON
eING
dTIE
g WITH LEFT HALF BLACK
mRIGHT HALF BLACK
cX DRAWINGS DOUBLE DOWN AND HORIZONTAL
bdLEFT
bdRIGHT
uHORIZONTAL
uUP AND HORIZONTAL
bbLEFT
bbRIGHT
uVERTICAL
bc AND HORIZONTAL
bhLEFT
bhRIGHT
pWN DOUBLE AND HORIZONTAL SINGLE
bdLEFT SINGLE
bdRIGHT SINGLE
sHEAVY AND HORIZONTAL LIGHT
bcLEFT LIGHT
bhUP LIGHT
bcRIGHT LIGHT
biUP LIGHT
bcUP HORIZONTAL LIGHT
sLIGHT AND HORIZONTAL HEAVY
bcLEFT HEAVY
bhUP HEAVY
bcRIGHT HEAVY
biUP HEAVY
bcUP HORIZONTAL HEAVY
sSINGLE AND HORIZONTAL DOUBLE
bdLEFT DOUBLE
bdRIGHT DOUBLE
nHEAVY DOUBLE DASH HORIZONTAL
bfVERTICAL
vWN
x AND HORIZONTAL
bcLEFT
bcRIGHT
tHORIZONTAL
tLEFT
x AND LIGHT RIGHT
tQUADRUPLE DASH HORIZONTAL
biVERTICAL
tRIGHT
tTRIPLE DASH HORIZONTAL
bfVERTICAL
tUP
v AND HORIZONTAL
baLEFT
bbIGHT DOWN
baRIGHT
tVERTICAL
bb AND HORIZONTAL
bgLEFT
bgRIGHT
nLEFT DOWN HEAVY AND RIGHT UP LIGHT
sHEAVY AND RIGHT DOWN LIGHT
biUP LIGHT
biVERTICAL LIGHT
sLIGHT AND RIGHT DOWN HEAVY
biUP HEAVY
biVERTICAL HEAVY
sUP HEAVY AND RIGHT DOWN LIGHT
oIGHT ARC DOWN AND LEFT
bgRIGHT
xUP AND LEFT
beRIGHT
tDIAGONAL CROSS
bcDIAMOND
bcMIDDLE LEFT TO LOWER CENTRE
cd TO MIDDLE RIGHT
brUPPER CENTRE TO MIDDLE RIGHT
ct TO LOWER CENTRE
bjRIGHT TO LOWER CENTRE
bsUPPER CENTRE TO MIDDLE LEFT TO LOWER CENTRE
bcUPPER CENTRE TO MIDDLE LEFT
cd AND MIDDLE RIGHT TO LOWER CENTRE
ceTO LOWER CENTRE
ct TO MIDDLE RIGHT
bzRIGHT
ce AND MIDDLE LEFT TO LOWER CENTRE
cfTO LOWER CENTRE
cu TO MIDDLE LEFT
biLEFT TO LOWER RIGHT
biRIGHT TO LOWER LEFT
uOUBLE DASH HORIZONTAL
bfVERTICAL
vWN
x AND HORIZONTAL
bcLEFT
bcRIGHT
tHORIZONTAL
bd WITH VERTICAL STROKE
tLEFT
x AND HEAVY RIGHT
tQUADRUPLE DASH HORIZONTAL
biVERTICAL
tRIGHT
tTRIPLE DASH HORIZONTAL
bfVERTICAL
tUP
v AND HEAVY DOWN
bbORIZONTAL
baLEFT
baRIGHT
tVERTICAL
bb AND HORIZONTAL
bgLEFT
bgRIGHT
nRIGHT DOWN HEAVY AND LEFT UP LIGHT
tHEAVY AND LEFT DOWN LIGHT
biUP LIGHT
biVERTICAL LIGHT
tLIGHT AND LEFT DOWN HEAVY
biUP HEAVY
biVERTICAL HEAVY
tUP HEAVY AND LEFT DOWN LIGHT
nUP DOUBLE AND HORIZONTAL SINGLE
bbLEFT SINGLE
bbRIGHT SINGLE
qHEAVY AND DOWN HORIZONTAL LIGHT
baHORIZONTAL LIGHT
baLEFT DOWN LIGHT
bfLIGHT
baRIGHT DOWN LIGHT
bgLIGHT
qLIGHT AND DOWN HORIZONTAL HEAVY
baHORIZONTAL HEAVY
baLEFT DOWN HEAVY
bfHEAVY
baRIGHT DOWN HEAVY
bgHEAVY
qSINGLE AND HORIZONTAL DOUBLE
bbLEFT DOUBLE
bbRIGHT DOUBLE
nVERTICAL DOUBLE AND HORIZONTAL SINGLE
bhLEFT SINGLE
bhRIGHT SINGLE
wHEAVY AND HORIZONTAL LIGHT
bgLEFT LIGHT
bgRIGHT LIGHT
wLIGHT AND HORIZONTAL HEAVY
bgLEFT HEAVY
bgRIGHT HEAVY
wSINGLE AND HORIZONTAL DOUBLE
bhLEFT DOUBLE
bhRIGHT DOUBLE
dING GLOVE
cY
dS SYMBOL
bPH
bRAHMI DANDA
iIGIT EIGHT
nFIVE
oOUR
nNINE
nONE
nSEVEN
oIX
nTHREE
oWO
nZERO
iOUBLE DANDA
hLETTER A
pA
pI
pU
oBA
pHA
oCA
pHA
oDA
pDA
qHA
pHA
oE
oGA
pHA
oHA
oI
pI
oJA
pHA
oKA
pHA
oLA
pLA
oMA
oNA
pGA
pNA
pYA
oO
pLD TAMIL LLA
baLA
yNNNA
yRRA
ySHORT E
beO
oPA
pHA
oRA
oSA
pHA
pSA
oTA
pHA
pTA
qHA
oU
pU
oVA
pOCALIC L
xL
wR
xR
oYA
hNUMBER EIGHT
tY
oFIFTY
qVE
pORTY
qUR
oJOINER
oNINE
sTY
oONE
r HUNDRED
sTHOUSAND
oSEVEN
tTY
pIX
rTY
oTEN
pHIRTY
qREE
pWENTY
qO
hPUNCTUATION CRESCENT BAR
tDOT
vUBLE DOT
tLINE
uOTUS
hSIGN ANUSVARA
mCANDRABINDU
mJIHVAMULIYA
mOLD TAMIL VIRAMA
mUPADHMANIYA
mVISARGA
hVIRAMA
iOWEL SIGN AA
tI
tU
sBHATTIPROLU AA
sE
sI
tI
sO
tLD TAMIL SHORT E
biO
sU
tU
sVOCALIC L
bbL
baR
bbR
dILLE PATTERN BLANK
qDOTS-1
w2
x3
y4
z5
ba6
bb7
bc8
bb8
ba7
bb8
ba8
z6
ba7
bb8
ba8
z7
ba8
z8
y5
z6
ba7
bb8
ba8
z7
ba8
z8
y6
z7
ba8
z8
y7
z8
y8
x4
y5
z6
ba7
bb8
ba8
z7
ba8
z8
y6
z7
ba8
z8
y7
z8
y8
x5
y6
z7
ba8
z8
y7
z8
y8
x6
y7
z8
y8
x7
y8
x8
w3
x4
y5
z6
ba7
bb8
ba8
z7
ba8
z8
y6
z7
ba8
z8
y7
z8
y8
x5
y6
z7
ba8
z8
y7
z8
y8
x6
y7
z8
y8
x7
y8
x8
w4
x5
y6
z7
ba8
z8
y7
z8
y8
x6
y7
z8
y8
x7
y8
x8
w5
x6
y7
z8
y8
x7
y8
x8
w6
x7
y8
x8
w7
x8
w8
v2
w3
x4
y5
z6
ba7
bb8
ba8
z7
ba8
z8
y6
z7
ba8
z8
y7
z8
y8
x5
y6
z7
ba8
z8
y7
z8
y8
x6
y7
z8
y8
x7
y8
x8
w4
x5
y6
z7
ba8
z8
y7
z8
y8
x6
y7
z8
y8
x7
y8
x8
w5
x6
y7
z8
y8
x7
y8
x8
w6
x7
y8
x8
w7
x8
w8
v3
w4
x5
y6
z7
ba8
z8
y7
z8
y8
x6
y7
z8
y8
x7
y8
x8
w5
x6
y7
z8
y8
x7
y8
x8
w6
x7
y8
x8
w7
x8
w8
v4
w5
x6
y7
z8
y8
x7
y8
x8
w6
x7
y8
x8
w7
x8
w8
v5
w6
x7
y8
x8
w7
x8
w8
v6
w7
x8
w8
v7
w8
v8
eN
cEAD
eK PERMITTED HERE
eST-FEEDING
dVE
cICK
dDE WITH VEIL
eGE AT NIGHT
dEFCASE
fS
cOCCOLI
dKEN BAR
hCIRCLE WITH NORTHWEST ARROW
hHEART
dOM
dWN HEART
bS
bUBBLE TEA
gS
cCKET
cG
dINESE END OF SECTION
jLETTER A
qBA
qCA
qDA
qGA
qHA
qJA
qKA
qLA
qMA
rPA
qNA
rGA
sKA
rRA
rYA
sCA
qPA
qRA
qSA
qTA
qVA
qYA
jPALLAWA
jVOWEL SIGN AE
uE
uI
uO
uU
cHID LETTER A
nBA
nDA
nGA
nHA
nI
nKA
nLA
nMA
nNA
oGA
nPA
nRA
nSA
nTA
nU
nWA
nYA
gVOWEL SIGN I
rU
cILDING CONSTRUCTION
cLLET
g OPERATOR
eHORN
i WITH SOUND WAVES
eSEYE
cRRITO
cS
d STOP
dT IN SILHOUETTE
eS IN SILHOUETTE
cTTER
gFLY
bYTE ORDER MARK
cZANTINE MUSICAL SYMBOL AGOGI ARGI
biOTERI
bfGORGI
bjOTERI
bfMESI
bhTRIA
bfPOLI ARGI
bkGORGI
baNATRICHISMA
bbTIKENOKYLISMA
bhMA
baPESO EKFONITIKON
bgXO NEO
bbLI
bbODERMA ARCHAION
biNEO
bcSTROFOI SYNDESMOS NEO
bkTELOUS ICHIMATOS
biS
bj DIPLI
bkNEO
bcTHEMA
baRGON
bdSYNTHETON
bbKTIKO DI
bhGA
bhKE
bhNI
bhPA
bhVOU
bhZO
zCHAMILI
bfON
bbOREVMA ARCHAION
biNEO
bbROA KLITON
bfSPATHI
bfZYGOS
zDASEIA
baIARGON
bcSTOLI APLI MEGALI
boIKRI
biDIPLI
biTHESEOS
bbESIS APLI DYO DODEKATA
bgDIGRAMMOS EX DODEKATA
bgMONOGRAMMOS TESSERA DODEKATA
bgTETARTIMORION
bhRIGRAMMOS OKTO DODEKATA
bjTIMORION
bbFTOGGOS OU
bbGORGON
bh PARESTIGMENON ARISTERA ANO
cfKATO
bwDEXIA
bcRAMMA GG
bbPLI
be ARCHAION
baYO
zEKSTREPTON
baLAFRON
baNARXIS KAI FTHORA VOU
bbDOFONON
baPEGERMA
baTERON ARGOSYNTHETON
bgPARAKALESMA
baXO EKFONITIKON
zFANEROSIS DIFONIAS
bjMONOFONIAS
bjTETRAFONIAS
baHTORA SKLIRON CHROMA VASIS
baTHORA ARCHAION
bo DEYTEROU ICHOU
bgDIATONIKI DI
bqKE
bqNANA
brI ANO
btKATO
bqPA
bqZO
bgENARMONIOS ANTIFONIA
bgI YFESIS TETARTIMORION
bgMALAKON CHROMA DIFONIAS
bvMONOFONIAS
bgNAOS ICHOS
bhENANO
bgSKLIRON CHROMA SYNAFI
bvVASIS
boDIATONON DI
zGENIKI DIESIS
bgYFESIS
baORGON ARCHAION
bgNEO ANO
bkKATO
bgPARESTIGMENON ARISTERA
buDEXIA
beSYNTHETON
bcTHMIKON N APLOUN
bmDIPLOUN
baRONTHISMATA
zICHADIN
baMIDIARGON
bcFONON
bdTHORA
bhON
baSAKIA TELOUS ICHIMATOS
bbON ARCHAION
beNEO
zKATAVA TROMIKON
bfSMA
bcHISTI
baENTIMA ARCHAION
bhNEO ANO
blKATO
blMESO
bgTA
bi ARCHAION
bjNEO ANO
bnKATO
bnMESO
baLASMA
bf ANO
bgKATO
baONTEVMA
bh ALLO
bbRONIS
bbUFISMA
baRATIMA ALLO
biRCHAION
bhNEO
bgTA
bfOKOUFISMA
bgYPORROON
bbEMASTI
baYLISMA
zLEIMMA DYO CHRONON
bgENOS CHRONOU
bgIMISEOS CHRONOU
bgTESSARON CHRONON
bhRION CHRONON
bbMOI
baYGISMA
zMARTYRIA ALLI DEYTEROS ICHOS
bnPROTOS ICHOS
biDEYTEROS ICHOS
biLEGETOS ICHOS
biPLAGIOS ICHOS
bqTETARTOS ICHOS
bjROTOS ICHOS
bnVARYS ICHOS
biTETARTOS ICHOS
brLEGETOS ICHOS
bjRIFONIAS
blTOS ICHOS
biVARYS ICHOS
baIKRON ISON
zNANA
zOLIGON ARCHAION
bgNEO
baMALON
baXEIA DIPLI
bfEKFONITIKON
bfNEO
beI ARCHAION
baYRANISMA ARCHAION
bjNEO
zPARAKALESMA ARCHAION
blNEO
beLITIKI
bk ARCHAION
blNEO
bcICHON
baELASTON
bh NEO
bbRISPOMENI
bbTASMA
beTI
bfOKOUFISMA
baIASMA ARCHAION
bgNEO
baSIFISTOLYGISMA
bhN
bi NEO
bhPARAKALESMA
bhSYNAGMA
bcLI
bdON
zRAPISMA
baEVMA
zSAXIMATA
baEISMA
bf NEO
baIMANSIS ARSEOS
bo DISIMOU
bpTETRASIMOU
bqRISIMOU
biTHESEOS
bp DISIMOU
bqTETRASIMOU
brRISIMOU
baTAVROS
bg APODEXIA
bbIGMA
bbRAGGISMATA
baYNAGMA ARCHAION
bhMETA STAVROU
bhNEO
bcEVMA
bbRMA
beTIKI
zTELEIA
bbSSERA
bbTRAPLI
baHEMA
be APLOUN
beTISMOS ESO
bmXO
bcS KAI APOTHES
bbITA
baINAGMA
baRIA
bcGORGON
bcPLI
bbOMIKOLYGISMA
bgN ALLO
bjRCHAION
biNEO
bgPARAKALESMA
bhSIFISTON
bgSYNAGMA
zVAREIA DIPLI
bgEKFONITIKON
bgNEO
bfI ARCHAION
bbTHY
zXIRON KLASMA
zYFEN ANO
beKATO
bcSIS APLI DYO DODEKATA
bgDIGRAMMOS EX DODEKATA
bgMONOGRAMMOS TESSERA DODEKATA
bgTRIGRAMMOS OKTO DODEKATA
bjTIMORION
baPOKRISIS
bi DIPLI
bcRROI
bbSILI
aCACTUS
cDA UNA
dUCEUS
cLENDAR
dL ME HAND
cMERA
g WITH FLASH
dPING
cN
dADIAN SYLLABICS A
uA
vI
vY
uI
vVILIK B
uN
uTHAPASCAN M
beS
uY
tBEAVER DENE L
bfR
uIBLE-CREE Y
uLACKFOOT A
bdE
bdI
bdKA
beE
beI
beO
bdNA
beE
beI
beO
bdO
bdS
bdW
beA
beE
beI
beO
tC
uA
vA
wI
vRRIER CHA
bdE
beE
bdI
bdO
bdU
bbDEE
bdNE GEE
beTAL S
bcI
bcLA
bdE
beE
bdI
bdO
bdU
bcZA
bdE
beE
bdI
bdO
bdU
bbEE
bbGA
bdA
bcE
bdE
bcHA
bdE
beE
bdI
bdO
bdU
bcI
bcO
bcU
bcWA
bdU
bbH
bcEE
bcI
bcWA
bdE
beE
bdI
bdO
bdU
bbI
bcNITIAL Z
bbJA
bcE
bdE
bcI
bcJA
bdE
beE
bdI
bdO
bdU
bcO
bcU
bcWA
bbKHA
bdE
beE
bdI
bdO
bdU
bcK
bdA
bdE
beE
bdI
bdO
bdU
bbLA
bcE
bdE
bcHA
bdE
beE
bdI
bdO
bdU
bcI
bcO
bcU
bbMA
bcE
bdE
bcI
bcO
bcU
bbNA
bcE
bdE
bcG
bcI
bcO
bcU
bbP
bcA
bcE
bdE
bcI
bcO
bcU
bbRA
bcE
bdE
bcI
bcO
bcU
bbSA
bcE
bdE
bcH
bdA
bdE
beE
bdI
bdO
bdU
bcI
bcO
bcU
bbTHA
bdE
beE
bdI
bdO
bdU
bcLA
bdE
beE
bdHA
beE
bfE
beI
beO
beU
bdI
bdO
bdU
bcSA
bdE
beE
bdI
bdO
bdU
bcTA
bdE
beE
bdI
bdO
bdSA
beE
bfE
beI
beO
beU
bdU
bbWA
bcE
bdE
bcI
bcO
bcU
bbYA
bcE
bdE
bcI
bcO
bcU
bbZ
bcA
bcE
bdE
bcI
bcO
bcU
uE
uHI SIGN
uI
vI
uO
vO
uWA
wA
vE
vI
wI
vO
wO
tE
uASTERN W
uN
tF
uA
vA
wI
uE
uI
vI
vNAL ACUTE
zBOTTOM HALF RING
zDOUBLE ACUTE
bgSHORT VERTICAL STROKES
bbWN TACK
zGRAVE
zMIDDLE DOT
zPLUS
zRAISED DOT
baIGHT HALF RING
bbNG
zSHORT HORIZONTAL STROKE
baMALL RING
zTOP HALF RING
uO
vO
uULL STOP
uWAA
tGLOTTAL STOP
tHK
uYPHEN
tI
uI
uN
tK
uA
vA
wI
vY
uE
uI
vI
uO
vO
uW
vA
wA
wY
vE
vI
wI
vO
wO
tL
uA
vA
wI
vY
uE
uH
vA
wA
vI
wI
vO
wO
uI
vI
uO
vO
uWA
wA
vE
vI
wI
vO
wO
tM
uA
vA
wI
vY
uE
vDIAL L
baR
uH
uI
vI
uO
vO
wSE-CREE SK
uWA
wA
vE
vI
wI
vO
wO
tN
u-CREE THE
bcI
bdI
uA
vA
wI
vSKAPI CWAA
bbKWAA
bbMWAA
bbNWAA
bbS-W
bcCWA
bcKW
beA
bcPWA
bcTWA
bcWAA
bbTWAA
bbWAA
bcOO
bbYWAA
vTTILIK HA
beA
bdI
beI
bdO
beO
bcSHRA
bgA
bfI
bgI
bfO
bgO
vY
uE
uG
vA
wA
xI
wI
vI
wI
vO
wO
uH
uI
vI
uNG
wA
xA
wI
xI
wO
xO
uO
vO
vY
uUNAVIK H
bcA
bdA
bcE
bcI
bdI
bcO
bdO
yUT H
uWA
wA
vE
vI
wI
vO
wO
tO
uJIBWAY C
bbK
bbM
bbN
bcWI
beI
bdO
beO
bbP
bbS
bcH
bbT
uN
uO
uY
tP
uA
vA
wI
vY
uE
uI
vI
uO
vO
vY
uWA
wA
vE
vI
wI
vO
wO
wY
tQ
uA
vA
wI
vI
uI
vI
uO
vO
tR
u-CREE RE
bbWE
uA
vA
wI
vY
uE
uI
vI
uO
vO
uWA
wA
vEE
vI
wI
vO
wO
tS
uA
vA
wI
vY
wISI HA
bbE
bbI
bbO
bcO
baJI
bbU
bcU
baM
baSHA
bcE
bcI
bcO
bdO
bcWE
baTH
baYI
uE
uH
vA
wA
wY
vE
vI
wI
vO
wO
wY
vWA
xA
wE
wI
xI
wO
xO
xY
uI
vI
uO
vO
vUTH-SLAVEY KAH
bhEH
bhIH
bhOH
vY
uPA
vE
vI
vO
uW
vA
wA
vE
vI
wI
vO
wO
tT
uA
vA
wI
vY
uE
uH
v-CREE TH
bdA
beA
bdE
bdI
beI
bdO
beO
vA
wA
vE
vI
wI
vO
wO
vWA
xA
wE
uI
vI
uLHA
wE
wI
wO
xO
wWE
uO
vO
uTA
vE
vH
wA
xA
wE
wI
wO
xO
wWE
vI
vO
uWA
wA
vE
vI
wI
vO
wO
uYA
vE
vI
vO
tWA
vA
vY
uE
vST-CREE CWA
bgA
bfE
bfI
bgI
bfO
bgO
bdFWAA
bdKWA
bgA
bfE
bfI
bgI
bfO
bgO
bdL
beA
bfA
beE
beO
bfO
beWA
bgA
bfE
bfI
bgI
bfO
bgO
bdM
beWA
bgA
bfE
bfI
bgI
bfO
bgO
bdNWA
bgA
bfE
bdP
beWA
bgA
bfE
bfI
bgI
bfO
bgO
bdR
beA
beE
beI
beO
beWAA
bdSHWA
bhA
bgE
bgI
bhI
bgO
bhO
beWA
bgA
bfE
bfI
bgI
bfO
bgO
bdTHWAA
beWA
bgA
bfE
bfI
bgI
bfO
bgO
bdWA
bfA
beE
beI
bfI
beO
bfO
bdY
beWA
bgA
bfE
bfI
bgI
bfO
bgO
xERN W
uI
vI
uO
vO
wDS-CREE FINAL TH
beTH
bgA
bgE
bgI
bgO
bgWA
biA
bhEE
bhI
biI
bhO
biO
tY
u-CREE COO
baKOO
baLOO
baMOO
baNOO
baOO
baPOO
bbWAA
baSOO
baTOO
baW
baYOO
uA
vA
wI
vY
uE
uI
vI
uO
vO
vY
uWA
wA
vE
vI
wI
vO
wO
dCEL
g CHARACTER
hTAG
gLATION X
fR
dDLE
eY
dNED FOOD
dOE
cPITULUM
dRICORN
cR SLIDING
dD FILE BOX
fINDEX
k DIVIDERS
dE OF
eT
f INSERTION POINT
dIAN LETTER A
p2
oB
oC-18
q39
oD
p2
oE
p2
oG
p2
oI
pI
oK
p2
oL
pD
q2
oM
pB
q2
q3
q4
oN
pD
pG
pN
oO
oP
p2
oQ
oR
pR
oS
pH
q2
pS
pT
q2
oT
pT
q2
oU
pU
qU
r2
r3
rU
oX
dON
eUSEL HORSE
dP STREAMER
eENTRY SAW
dRIAGE RETURN
eOT
cSTLE
cT
d FACE
i WITH TEARS OF JOY
oWRY SMILE
cUCASIAN ALBANIAN CITATION MARK
tLETTER ALT
bbOR
baBET
baCAR
bcYN
bbHA
bdT
bcI
bcOY
bbYAW
bdY
baDAT
bbYAN
bbZAY
bcYAY
baEB
bbYN
baFAM
baGHEYS
bbIM
baHEYT
baINYA
bbRB
bbWN
baJAYN
bbHOX
baKAR
bbIW
baLAN
bbYIT
baMAQ
baNOWC
baON
baPEN
bbIWR
baQAR
bcY
baRAT
baSEYK
bbHA
bdK
bcOY
baTAS
bbIWR
bbYAY
baVEYZ
baXEYN
baYAYD
bbOWD
baZARL
bbHA
bcIL
dTION SIGN
bCH
bEDI SIGN
eLLA
cLTIC CROSS
cNT SIGN
eRE LINE SYMBOL
gLINE LOW LINE
lOVERLINE
cRES
bGJ
bHAINS
eR
dKMA AU MARK
hDANDA
iIGIT EIGHT
nFIVE
oOUR
nNINE
nONE
nSEVEN
oIX
nTHREE
oWO
nZERO
iOUBLE DANDA
hLETTER AA
oBAA
pHAA
oCAA
pHAA
oDAA
pDAA
qHAA
pHAA
oE
oGAA
pHAA
oHAA
oI
oJAA
pHAA
oKAA
pHAA
oLAA
pHAA
oMAA
oNAA
pGAA
pNAA
pYAA
oPAA
pHAA
oRAA
oSAA
oTAA
pHAA
pTAA
qHAA
oU
oVAA
oWAA
oYAA
pYAA
hMAAYYAA
hO MARK
hQUESTION MARK
hSECTION MARK
iIGN ANUSVARA
mCANDRABINDU
mVISARGA
hVIRAMA
iOWEL SIGN A
tA
tI
tU
sE
tI
sI
tI
sO
tI
sU
tU
dM CONSONANT SIGN FINAL H
baM
baNG
uLA
uRA
uWA
uYA
fDIGIT EIGHT
lFIVE
mOUR
lNINE
lONE
lSEVEN
mIX
lTHREE
mWO
lZERO
fLETTER A
nI
mBA
nBA
nHA
mCHA
oHA
mDA
nDA
nHA
mE
mFINAL CH
sG
sK
sL
sN
tG
sP
sR
sSS
sT
sY
mGA
nHA
mHA
mI
mJA
nHA
mKA
nHA
mLA
mMA
nUE
mNA
nGA
oUE
nHA
oJA
oUE
nUE
mO
mPA
nHA
nPA
mRA
mSA
nSA
mTA
nHA
mU
mVA
mYA
fPUNCTUATION DANDA
sOUBLE DANDA
rSPIRAL
rTRIPLE DANDA
fVOWEL SIGN AA
rI
rU
qEI
qI
rI
qO
rE
qU
rE
dRACTER TABULATION
u SET
vWITH JUSTIFICATION
lIE
eT WITH DOWNWARDS TREND
lUPWARDS TREND
y AND YEN SIGN
cECK MARK
fER BOARD
n FILL
dERING MEGAPHONE
eSE WEDGE
dQUERED FLAG
dROKEE LETTER A
qDA
rE
rI
rLA
rO
rU
rV
qE
qGA
rE
rI
rO
rU
rV
qHA
rE
rI
rNA
rO
rU
rV
qI
qKA
qLA
rE
rI
rO
rU
rV
qMA
rE
rI
rO
rU
rV
qNA
sH
rE
rI
rO
rU
rV
qO
qQUA
sE
sI
sO
sU
sV
qS
rA
rE
rI
rO
rU
rV
qTA
rE
rI
rLA
sE
sI
sO
sU
sV
rSA
sE
sI
sO
sU
sV
qU
qV
qWA
rE
rI
rO
rU
rV
qYA
rE
rI
rO
rU
rV
jSMALL LETTER A
wDA
xE
xI
xLA
xO
xU
xV
wE
wGA
xE
xI
xO
xU
xV
wHA
xE
xI
xNA
xO
xU
xV
wI
wKA
wLA
xE
xI
xO
xU
xV
wMA
xE
xI
xO
xU
xV
wNA
yH
xE
xI
xO
xU
xV
wO
wQUA
yE
yI
yO
yU
yV
wS
xA
xE
xI
xO
xU
xV
wTA
xE
xI
xLA
yE
yI
yO
yU
yV
xSA
yE
yI
yO
yU
yV
wU
wV
wWA
xE
xI
xO
xU
xV
wYA
xE
xI
xO
xU
xV
eRIES
fY BLOSSOM
dSTNUT
cI RHO
dCKEN
dLD
fREN CROSSING
dPMUNK
dRON
cOCOLATE BAR
dPSTICKS
dRASMIAN LETTER ALEPH
tYIN
sBETH
sCURLED WAW
sDALETH
sGIMEL
sHE
uTH
sKAPH
sLAMEDH
sMEM
sNUN
sPE
sRESH
sSAMEKH
tHIN
tMALL ALEPH
sTAW
sWAW
sYODH
sZAYIN
lNUMBER FOUR
sONE
v HUNDRED
sTEN
tHREE
tWENTY
uO
cRISTMAS TREE
cURCH
bINEMA
cRCLE DIVIDED BY HORIZONTAL BAR AND TOP HALF DIVIDED BY VERTICAL BAR
hWITH ALL BUT UPPER LEFT QUADRANT BLACK
mHORIZONTAL BAR
mLEFT HALF BLACK
nOWER HALF BLACK
mRIGHT HALF BLACK
mSMALL CIRCLE TO THE RIGHT
nUPERIMPOSED X
mTWO HORIZONTAL STROKES TO THE RIGHT
mUPPER HALF BLACK
sRIGHT QUADRANT BLACK
mVERTICAL FILL
gD ANTICLOCKWISE ARROW
v-ROTATED DIVISION SIGN
jSTERISK OPERATOR
iBOLD X
jULLET
iC WITH OVERLAID BACKSLASH
jC
jD
jROSS FORMEE
u WITH FOUR DOTS
baTWO DOTS
oPOMMEE
nING LANES
iDASH
jIGIT EIGHT
oFIVE
pOUR
oNINE
oONE
oSEVEN
pIX
oTHREE
pWO
oZERO
kVISION SIGN
sLASH
jOLLAR SIGN WITH OVERLAID BACKSLASH
kT OPERATOR
iEQUALS
iGREATER-THAN
iHANGUL CHIEUCH
w A
qIEUC
u A
pHIEUH
u A
pIEUNG
u A
vU
pKHIEUKH
w A
qIYEOK
v A
pMIEUM
u A
pNIEUN
u A
pPHIEUPH
w A
qIEUP
u A
pRIEUL
u A
pSIOS
t A
pTHIEUTH
w A
qIKEUT
v A
jEAVY WHITE RIGHTWARDS ARROW
jORIZONTAL BAR WITH NOTCH
jUMAN FIGURE
iIDEOGRAPH ACCEPT
tDVANTAGE
tLLIANCE
tTTENTION
sCENTRE
tONGRATULATION
uPY
uRRECT
sEARTH
tIGHT
tNTERPRISE
tXCELLENT
sFEMALE
tINANCIAL
uRE
uVE
tOUR
sHAVE
tIGH
sITEM
sKINDERGARTEN
tOTO
sLABOR
tEFT
tOW
sMALE
tEDICINE
uTAL
tOON
sNAME
tIGHT
uNE
sONE
sPRINT
sQUESTION
sRELIGION
uSOURCE
vT
tIGHT
sSCHOOL
tECRET
uVEN
tIX
tOCIETY
tPECIAL
tTOCK
uUDY
tUITABLE
uN
uPERVISE
sTEN
tHREE
tWO
sWATER
tOOD
jNFORMATION SOURCE
jTALIC LATIN CAPITAL LETTER C
bkR
iKATAKANA A
rE
rHA
sE
sI
sO
sU
rI
rKA
sE
sI
sO
sU
rMA
sE
sI
sO
sU
rNA
sE
sI
sO
sU
rO
rRA
sE
sI
sO
sU
rSA
sE
sI
sO
sU
rTA
sE
sI
sO
sU
rU
rWA
sE
sI
sO
rYA
sO
sU
jOREAN CHARACTER CHAMKO
zJUEUI
iLATIN CAPITAL LETTER A
bdB
bdC
bdD
bdE
bdF
bdG
bdH
bdI
bdJ
bdK
bdL
bdM
bdN
bdO
bdP
bdQ
bdR
bdS
bdT
bdU
bdV
bdW
bdX
bdY
bdZ
oSMALL LETTER A
bbB
bbC
bbD
bbE
bbF
bbG
bbH
bbI
bbJ
bbK
bbL
bbM
bbN
bbO
bbP
bbQ
bbR
bbS
bbT
bbU
bbV
bbW
bbX
bbY
bbZ
jESS-THAN
iMINUS
jULTIPLICATION SIGN WITH CIRCUMFLEX ACCENT
iNUMBER EIGHTEEN
uY ON BLACK SQUARE
qLEVEN
pFIFTEEN
tY
u ON BLACK SQUARE
qORTY
u EIGHT
vFIVE
wOUR
vNINE
vON BLACK SQUARE
xE
vSEVEN
wIX
vTHREE
wWO
rURTEEN
pNINETEEN
pSEVENTEEN
vY ON BLACK SQUARE
qIXTEEN
tY ON BLACK SQUARE
pTEN
s ON BLACK SQUARE
qHIRTEEN
uY
v EIGHT
wFIVE
xOUR
wNINE
wON BLACK SQUARE
yE
wSEVEN
xIX
wTHREE
xWO
qWELVE
sNTY
v EIGHT
wFIVE
xOUR
wNINE
wON BLACK SQUARE
yE
wSEVEN
xIX
wTHREE
xWO
iOPEN CENTRE EIGHT POINTED STAR
iPARALLEL
jERPENDICULAR
jLUS
jOSTAL MARK
iREVERSE SOLIDUS
jING OPERATOR
iSQUARE
iTIMES
jRIANGLE
q DOWN
iVERTICAL BAR
iWHITE BULLET
oSTAR
jZ
iX
iZERO WITH SLASH
eULATION FUNCTION
fMFLEX ACCENT
fS TENT
cTYSCAPE
j AT DUSK
bJK COMPATIBILITY IDEOGRAPH-2F800
bg1
bg2
bg3
bg4
bg5
bg6
bg7
bg8
bg9
bgA
bgB
bgC
bgD
bgE
bgF
bf10
bg1
bg2
bg3
bg4
bg5
bg6
bg7
bg8
bg9
bgA
bgB
bgC
bgD
bgE
bgF
bf20
bg1
bg2
bg3
bg4
bg5
bg6
bg7
bg8
bg9
bgA
bgB
bgC
bgD
bgE
bgF
bf30
bg1
bg2
bg3
bg4
bg5
bg6
bg7
bg8
bg9
bgA
bgB
bgC
bgD
bgE
bgF
bf40
bg1
bg2
bg3
bg4
bg5
bg6
bg7
bg8
bg9
bgA
bgB
bgC
bgD
bgE
bgF
bf50
bg1
bg2
bg3
bg4
bg5
bg6
bg7
bg8
bg9
bgA
bgB
bgC
bgD
bgE
bgF
bf60
bg1
bg2
bg3
bg4
bg5
bg6
bg7
bg8
bg9
bgA
bgB
bgC
bgD
bgE
bgF
bf70
bg1
bg2
bg3
bg4
bg5
bg6
bg7
bg8
bg9
bgA
bgB
bgC
bgD
bgE
bgF
bf80
bg1
bg2
bg3
bg4
bg5
bg6
bg7
bg8
bg9
bgA
bgB
bgC
bgD
bgE
bgF
bf90
bg1
bg2
bg3
bg4
bg5
bg6
bg7
bg8
bg9
bgA
bgB
bgC
bgD
bgE
bgF
bfA0
bg1
bg2
bg3
bg4
bg5
bg6
bg7
bg8
bg9
bgA
bgB
bgC
bgD
bgE
bgF
bfB0
bg1
bg2
bg3
bg4
bg5
bg6
bg7
bg8
bg9
bgA
bgB
bgC
bgD
bgE
bgF
bfC0
bg1
bg2
bg3
bg4
bg5
bg6
bg7
bg8
bg9
bgA
bgB
bgC
bgD
bgE
bgF
bfD0
bg1
bg2
bg3
bg4
bg5
bg6
bg7
bg8
bg9
bgA
bgB
bgC
bgD
bgE
bgF
bfE0
bg1
bg2
bg3
bg4
bg5
bg6
bg7
bg8
bg9
bgA
bgB
bgC
bgD
bgE
bgF
bfF0
bg1
bg2
bg3
bg4
bg5
bg6
bg7
bg8
bg9
bgA
bgB
bgC
bgD
bgE
bgF
be900
bg1
bg2
bg3
bg4
bg5
bg6
bg7
bg8
bg9
bgA
bgB
bgC
bgD
bgE
bgF
bf10
bg1
bg2
bg3
bg4
bg5
bg6
bg7
bg8
bg9
bgA
bgB
bgC
bgD
bgE
bgF
bf20
bg1
bg2
bg3
bg4
bg5
bg6
bg7
bg8
bg9
bgA
bgB
bgC
bgD
bgE
bgF
bf30
bg1
bg2
bg3
bg4
bg5
bg6
bg7
bg8
bg9
bgA
bgB
bgC
bgD
bgE
bgF
bf40
bg1
bg2
bg3
bg4
bg5
bg6
bg7
bg8
bg9
bgA
bgB
bgC
bgD
bgE
bgF
bf50
bg1
bg2
bg3
bg4
bg5
bg6
bg7
bg8
bg9
bgA
bgB
bgC
bgD
bgE
bgF
bf60
bg1
bg2
bg3
bg4
bg5
bg6
bg7
bg8
bg9
bgA
bgB
bgC
bgD
bgE
bgF
bf70
bg1
bg2
bg3
bg4
bg5
bg6
bg7
bg8
bg9
bgA
bgB
bgC
bgD
bgE
bgF
bf80
bg1
bg2
bg3
bg4
bg5
bg6
bg7
bg8
bg9
bgA
bgB
bgC
bgD
bgE
bgF
bf90
bg1
bg2
bg3
bg4
bg5
bg6
bg7
bg8
bg9
bgA
bgB
bgC
bgD
bgE
bgF
bfA0
bg1
bg2
bg3
bg4
bg5
bg6
bg7
bg8
bg9
bgA
bgB
bgC
bgD
bgE
bgF
bfB0
bg1
bg2
bg3
bg4
bg5
bg6
bg7
bg8
bg9
bgA
bgB
bgC
bgD
bgE
bgF
bfC0
bg1
bg2
bg3
bg4
bg5
bg6
bg7
bg8
bg9
bgA
bgB
bgC
bgD
bgE
bgF
bfD0
bg1
bg2
bg3
bg4
bg5
bg6
bg7
bg8
bg9
bgA
bgB
bgC
bgD
bgE
bgF
bfE0
bg1
bg2
bg3
bg4
bg5
bg6
bg7
bg8
bg9
bgA
bgB
bgC
bgD
bgE
bgF
bfF0
bg1
bg2
bg3
bg4
bg5
bg6
bg7
bg8
bg9
bgA
bgB
bgC
bgD
bgE
bgF
beA00
bg1
bg2
bg3
bg4
bg5
bg6
bg7
bg8
bg9
bgA
bgB
bgC
bgD
bgE
bgF
bf10
bg1
bg2
bg3
bg4
bg5
bg6
bg7
bg8
bg9
bgA
bgB
bgC
bgD
bcF900
bf1
bf2
bf3
bf4
bf5
bf6
bf7
bf8
bf9
bfA
bfB
bfC
bfD
bfE
bfF
be10
bf1
bf2
bf3
bf4
bf5
bf6
bf7
bf8
bf9
bfA
bfB
bfC
bfD
bfE
bfF
be20
bf1
bf2
bf3
bf4
bf5
bf6
bf7
bf8
bf9
bfA
bfB
bfC
bfD
bfE
bfF
be30
bf1
bf2
bf3
bf4
bf5
bf6
bf7
bf8
bf9
bfA
bfB
bfC
bfD
bfE
bfF
be40
bf1
bf2
bf3
bf4
bf5
bf6
bf7
bf8
bf9
bfA
bfB
bfC
bfD
bfE
bfF
be50
bf1
bf2
bf3
bf4
bf5
bf6
bf7
bf8
bf9
bfA
bfB
bfC
bfD
bfE
bfF
be60
bf1
bf2
bf3
bf4
bf5
bf6
bf7
bf8
bf9
bfA
bfB
bfC
bfD
bfE
bfF
be70
bf1
bf2
bf3
bf4
bf5
bf6
bf7
bf8
bf9
bfA
bfB
bfC
bfD
bfE
bfF
be80
bf1
bf2
bf3
bf4
bf5
bf6
bf7
bf8
bf9
bfA
bfB
bfC
bfD
bfE
bfF
be90
bf1
bf2
bf3
bf4
bf5
bf6
bf7
bf8
bf9
bfA
bfB
bfC
bfD
bfE
bfF
beA0
bf1
bf2
bf3
bf4
bf5
bf6
bf7
bf8
bf9
bfA
bfB
bfC
bfD
bfE
bfF
beB0
bf1
bf2
bf3
bf4
bf5
bf6
bf7
bf8
bf9
bfA
bfB
bfC
bfD
bfE
bfF
beC0
bf1
bf2
bf3
bf4
bf5
bf6
bf7
bf8
bf9
bfA
bfB
bfC
bfD
bfE
bfF
beD0
bf1
bf2
bf3
bf4
bf5
bf6
bf7
bf8
bf9
bfA
bfB
bfC
bfD
bfE
bfF
beE0
bf1
bf2
bf3
bf4
bf5
bf6
bf7
bf8
bf9
bfA
bfB
bfC
bfD
bfE
bfF
beF0
bf1
bf2
bf3
bf4
bf5
bf6
bf7
bf8
bf9
bfA
bfB
bfC
bfD
bfE
bfF
bdA00
bf1
bf2
bf3
bf4
bf5
bf6
bf7
bf8
bf9
bfA
bfB
bfC
bfD
bfE
bfF
be10
bf1
bf2
bf3
bf4
bf5
bf6
bf7
bf8
bf9
bfA
bfB
bfC
bfD
bfE
bfF
be20
bf1
bf2
bf3
bf4
bf5
bf6
bf7
bf8
bf9
bfA
bfB
bfC
bfD
bfE
bfF
be30
bf1
bf2
bf3
bf4
bf5
bf6
bf7
bf8
bf9
bfA
bfB
bfC
bfD
bfE
bfF
be40
bf1
bf2
bf3
bf4
bf5
bf6
bf7
bf8
bf9
bfA
bfB
bfC
bfD
bfE
bfF
be50
bf1
bf2
bf3
bf4
bf5
bf6
bf7
bf8
bf9
bfA
bfB
bfC
bfD
bfE
bfF
be60
bf1
bf2
bf3
bf4
bf5
bf6
bf7
bf8
bf9
bfA
bfB
bfC
bfD
be70
bf1
bf2
bf3
bf4
bf5
bf6
bf7
bf8
bf9
bfA
bfB
bfC
bfD
bfE
bfF
be80
bf1
bf2
bf3
bf4
bf5
bf6
bf7
bf8
bf9
bfA
bfB
bfC
bfD
bfE
bfF
be90
bf1
bf2
bf3
bf4
bf5
bf6
bf7
bf8
bf9
bfA
bfB
bfC
bfD
bfE
bfF
beA0
bf1
bf2
bf3
bf4
bf5
bf6
bf7
bf8
bf9
bfA
bfB
bfC
bfD
bfE
bfF
beB0
bf1
bf2
bf3
bf4
bf5
bf6
bf7
bf8
bf9
bfA
bfB
bfC
bfD
bfE
bfF
beC0
bf1
bf2
bf3
bf4
bf5
bf6
bf7
bf8
bf9
bfA
bfB
bfC
bfD
bfE
bfF
beD0
bf1
bf2
bf3
bf4
bf5
bf6
bf7
bf8
bf9
eRADICAL BAMBOO
nLUE
nOLT OF CLOTH
oNE
oX
nRUSH ONE
sTWO
mC-SIMPLIFIED BIRD
zCART
zDRAGON
zEAT
baVEN
zFISH
baLY
baROG
zGATE
baOLD
zHORSE
zLEAF
baONG
zSALT
baEE
baHELL
baILK
baPEECH
zTANNED LEATHER
baOOTH
baURTLE
zWIND
nHOKE
nITY
oVILIAN
nLIFF
oOTHES
nOW
mDEATH
nIVINATION
nOG
mEAT ONE
qTHREE
rWO
nWE
nYE
mFIRE
nOOT
mGHOST
nRASS ONE
sTHREE
tWO
mHAND
nEAD
pRT ONE
sTWO
nORN
mJ-SIMPLIFIED DRAGON
zEVEN
zTOOTH
baURTLE
nADE
mKNIFE ONE
sTWO
mLAME FOUR
rONE
rTHREE
sWO
nONG ONE
rTWO
mMEAT
oSH
nOON
oRTAR
oTHER
oUND ONE
sTWO
mNET FOUR
qONE
qTHREE
rWO
mOLD
mPAW ONE
qTWO
nERSON
mRAIN
oM
oP
nEPEAT
mSEAL
oCOND ONE
tTHREE
uWO
nHEEP
nILK
oMPLIFIED HALF TREE TRUNK
yORN
xWALK
yHEAT
xYELLOW
nMALL ONE
sTWO
nNAKE
oOUT ONE
sTWO
nPIRIT ONE
tTWO
nUN
mTABLE
nHREAD
nIGER
nURTLE
mWALK ONE
rTWO
oTER ONE
sTWO
nEST ONE
rTWO
eSTROKE BXG
lD
lH
mG
mP
nWG
mXWG
mZ
nG
nT
nW
oG
nZ
oP
oZ
pG
lN
lP
mD
mG
mZ
lQ
lS
mG
mP
mT
mW
nG
nZ
mZ
nWG
nZ
lT
mN
lWG
lXG
bLAMSHELL MOBILE PHONE
dPPER BOARD
fING HANDS SIGN
dSSICAL BUILDING
cEAR SCREEN SYMBOL
cINKING BEER MUGS
jGLASSES
dPBOARD
cOCK FACE EIGHT OCLOCK
q-THIRTY
mLEVEN OCLOCK
r-THIRTY
lFIVE OCLOCK
p-THIRTY
mOUR OCLOCK
p-THIRTY
lNINE OCLOCK
p-THIRTY
lONE OCLOCK
o-THIRTY
lSEVEN OCLOCK
q-THIRTY
mIX OCLOCK
o-THIRTY
lTEN OCLOCK
o-THIRTY
mHREE OCLOCK
q-THIRTY
mWELVE OCLOCK
r-THIRTY
nO OCLOCK
o-THIRTY
fWISE CLOSED CIRCLE ARROW
lONTOUR INTEGRAL
kDOWNWARDS AND UPWARDS OPEN CIRCLE ARROWS
kGAPPED CIRCLE ARROW
kINTEGRAL
kOPEN CIRCLE ARROW
kRIGHT AND LEFT SEMICIRCLE ARROWS
pWARDS AND LEFTWARDS OPEN CIRCLE ARROWS
cb WITH CIRCLED ONE OVERLAY
kTOP SEMICIRCLE ARROW
lRIANGLE-HEADED OPEN CIRCLE ARROW
dSE UP
fD BOOK
hINTERSECTION WITH SERIFS
hLOCK WITH KEY
hMAILBOX WITH LOWERED FLAG
uRAISED FLAG
hSUBSET
n OR EQUAL TO
jPERSET
p OR EQUAL TO
hUMBRELLA
iNION WITH SERIFS
y AND SMASH PRODUCT
dUD
f WITH LIGHTNING
lRAIN
lSNOW
lTORNADO
dWN FACE
bOAT
cCKROACH
eTAIL GLASS
dONUT
cFFIN
cIN
cLLISION SYMBOL
dON
f EQUALS
gSIGN
cMBINING ACUTE ACCENT
w BELOW
qTONE MARK
p-GRAVE-ACUTE
qMACRON
lLMOST EQUAL TO ABOVE
baBELOW
lNNUITY SYMBOL
mTICLOCKWISE ARROW ABOVE
yRING OVERLAY
lSTERISK ABOVE
tBELOW
kBINDU BELOW
lREVE
p BELOW
p-MACRON
mIDGE ABOVE
rBELOW
kCANDRABINDU
mRON
p BELOW
lEDILLA
lIRCUMFLEX ACCENT
bb BELOW
lLOCKWISE ARROW ABOVE
uRING OVERLAY
lOMMA ABOVE
v RIGHT
qBELOW
mNJOINING MACRON
bb BELOW
lYRILLIC DASIA PNEUMATA
tHUNDRED MILLIONS SIGN
bbTHOUSANDS SIGN
tKAVYKA
tLETTER A
baBE
bbIG YUS
baCHE
baDE
bbJERV
baEF
bbL
bbM
bbN
bbR
bbS
bc-TE
baFITA
baGHE
baHA
bcRD SIGN
baI
bbE
bbOTIFIED A
bjBIG YUS
bjE
baKA
baLITTLE YUS
baMONOGRAPH UK
baO
bbMEGA
baPE
baSHA
bcCHA
bbOFT SIGN
baTE
bbSE
baU
bbKRAINIAN IE
baVE
baYAT
bbERU
bbI
bbU
baZE
bbHE
tMILLIONS SIGN
tPALATALIZATION
vYEROK
uOKRYTIE
uSILI PNEUMATA
tTEN MILLIONS SIGN
uHOUSAND MILLIONS SIGN
uITLO
y LEFT HALF
zRIGHT HALF
tVZMET
kDELETION MARK
mVANAGARI DIGIT EIGHT
bbFIVE
bcOUR
bbNINE
bbONE
bbSEVEN
bcIX
bbTHREE
bcWO
bbZERO
vLETTER A
bcKA
bcNA
bcPA
bcRA
bcU
bcVI
vSIGN AVAGRAHA
lIAERESIS
t BELOW
t-RING
lOT ABOVE
t LEFT
uRIGHT
oBELOW
t LEFT
nTED ACUTE ACCENT
rGRAVE ACCENT
mUBLE ACUTE ACCENT
rBREVE
w BELOW
rCIRCUMFLEX ABOVE
rGRAVE ACCENT
rINVERTED BREVE
bf BELOW
rLOW LINE
rMACRON
x BELOW
rOPEN MARK BELOW
sVERLINE
rPARENTHESES ABOVE
sLUS SIGN ABOVE
bbBELOW
rRIGHTWARDS ARROW BELOW
tNG BELOW
rTILDE
w LEFT HALF
xRIGHT HALF
rVERTICAL LINE ABOVE
bfBELOW
baSTROKE OVERLAY
qD CIRCUMFLEX ACCENT
mWN TACK BELOW
oWARDS ARROW
kENCLOSING CIRCLE
ba BACKSLASH
uDIAMOND
uKEYCAP
uSCREEN
vQUARE
uUPWARD POINTING TRIANGLE
lQUALS SIGN BELOW
kFERMATA
lOUR DOTS ABOVE
kGLAGOLITIC LETTER AZU
bcBIG YUS
bdUKY
bcCHRIVI
bcDJERVI
bdOBRO
bcFITA
bdRITU
bcGLAGOLI
bcHERU
bcI
bdNITIAL IZHE
bdOTATED BIG YUS
bkSMALL YUS
bdZHE
bcKAKO
bcLJUDIJE
bcMYSLITE
bcNASHI
bcONU
bcPOKOJI
bcRITSI
bcSHA
beTA
bdLOVO
bdMALL YUS
bcTSI
bdVRIDO
bcUKU
bcVEDE
bcYATI
bdERI
bfU
beSTU
bdO
bdU
bcZEMLJA
bdHIVETE
lRANTHA DIGIT FIVE
zOUR
yONE
ySIX
yTHREE
zWO
yZERO
sLETTER A
zKA
zNA
zPA
zVI
nPHEME JOINER
nVE ACCENT
w BELOW
qTONE MARK
p-ACUTE-GRAVE
qMACRON
mEEK DIALYTIKA TONOS
qKORONIS
qMUSICAL PENTASEME
yTETRASEME
zRISEME
qPERISPOMENI
qYPOGEGRAMMENI
kHOMOTHETIC ABOVE
mOK ABOVE
mRN
kINFINITY
mVERTED BREVE
y BELOW
vIDGE BELOW
tDOUBLE ARCH ABOVE
bfBELOW
lS BELOW
kKATAKANA-HIRAGANA SEMI-VOICED SOUND MARK
bcVOICED SOUND MARK
mVYKA ABOVE LEFT
xRIGHT
kLATIN LETTER SMALL CAPITAL G
blL
blM
blN
blR
qSMALL LETTER A
be WITH DIAERESIS
beE
beLPHA
beO
beV
bdB
beETA
bdC
be CEDILLA
bdD
bdE
beSH
beTH
bdF
beLATTENED OPEN A ABOVE
bdG
bdH
bdI
beNSULAR D
blG
blR
blT
bdK
bdL
be WITH DOUBLE MIDDLE TILDE
beONG S
bdM
bdN
bdO
be WITH DIAERESIS
bkLIGHT CENTRALIZATION STROKE
bdP
bdR
be BELOW
bfROTUNDA
bdS
beCHWA
bdT
beURNED W BELOW
bdU
be WITH DIAERESIS
bkLIGHT CENTRALIZATION STROKE
bdV
bdW
be BELOW
bdX
bdZ
lEFT ANGLE ABOVE
vBELOW
qRROW ABOVE
vBELOW
uHEAD ABOVE
zBELOW
pHALF RING ABOVE
zBELOW
rRPOON ABOVE
pPARENTHESIS ABOVE LEFT
bbBELOW LEFT
pRIGHT ARROW ABOVE
bbBELOW
pTACK BELOW
oWARDS ARROW OVERLAY
uHARPOON WITH BARB DOWNWARDS
lIGATURE LEFT HALF
bc BELOW
tRIGHT HALF
bd BELOW
nHT CENTRALIZATION STROKE BELOW
lONG DOUBLE SOLIDUS OVERLAY
pSOLIDUS OVERLAY
qTROKE OVERLAY
pVERTICAL LINE OVERLAY
mW LINE
kMACRON
q BELOW
rLEFT HALF
ba BELOW
rRIGHT HALF
bb BELOW
q-ACUTE
rBREVE
rGRAVE
lINUS SIGN BELOW
kNOT TILDE ABOVE
lUMBER SIGN ABOVE
kOGONEK
q ABOVE
lLD PERMIC LETTER AN
bcDOI
bcNENOE
bcSII
bcZATA
lPEN MARK BELOW
lVERLINE
kPALATALIZED HOOK BELOW
mRENTHESES ABOVE
wBELOW
wOVERLAY
lLUS SIGN ABOVE
uBELOW
kRETROFLEX HOOK BELOW
mVERSE SOLIDUS OVERLAY
rD COMMA ABOVE
lIGHT ARROW ABOVE
wBELOW
vHEAD ABOVE
bbND DOWN ARROWHEAD BELOW
beUP ARROWHEAD BELOW
baBELOW
qHALF RING ABOVE
baBELOW
sRPOON ABOVE
qPARENTHESIS ABOVE RIGHT
bcBELOW RIGHT
qTACK BELOW
pWARDS HARPOON WITH BARB DOWNWARDS
mNG ABOVE
pBELOW
pOVERLAY
kSEAGULL BELOW
lHORT SOLIDUS OVERLAY
rTROKE OVERLAY
qVERTICAL LINE OVERLAY
lNAKE BELOW
lQUARE BELOW
sRACKETS ABOVE
lTRONG CENTRALIZATION STROKE BELOW
lUSPENSION MARK
kTHREE DOTS ABOVE
lILDE
p BELOW
qLEFT HALF BELOW
qOVERLAY
qRIGHT HALF BELOW
lRIPLE ACUTE ACCENT
rDOT
rUNDERDOT
lURNED COMMA ABOVE
kUP TACK ABOVE
sBELOW
mWARDS ARROW BELOW
lR ABOVE
lS ABOVE
kVERTICAL LINE ABOVE
yBELOW
tTILDE
kWIDE BRIDGE ABOVE
pINVERTED BRIDGE BELOW
mGGLY LINE BELOW
kX ABOVE
mBELOW
l-X BELOW
kZIGZAG ABOVE
rBELOW
dET
dMA
eERCIAL AT
lMINUS SIGN
dPASS
eLEMENT
eOSITION SYMBOL
eRESSION
cNFETTI BALL
eOUNDED FACE
eUSED FACE
dGRUENT WITH DOT ABOVE
dICAL TAPER
dJUNCTION
dSTRUCTION SIGN
nWORKER
dTAINS AS MEMBER
mNORMAL SUBGROUP
bb OR EQUAL TO
jWITH LONG HORIZONTAL STROKE
oOVERBAR
oVERTICAL BAR AT END OF HORIZONTAL STROKE
eINUOUS UNDERLINE SYMBOL
eOUR INTEGRAL
eROL KNOBS
iSEQUENCE INTRODUCER
dVENIENCE STORE
cOKED RICE
eIE
fNG
cPTIC CAPITAL LETTER AKHMIMIC KHEI
xLFA
wBOHAIRIC KHEI
wCROSSED SHEI
yYPTOGRAMMIC EIE
bkGANGIA
bkNI
bkSHEI
wDALDA
xEI
xIALECT-P ALEF
bgHORI
bgKAPA
bgNI
wEIE
wFEI
xI
wGAMMA
yNGIA
wHATE
xORI
wIAUDA
wKAPA
xHEI
yI
xSI
wL-SHAPED HA
xAULA
wMI
wNI
wO
xLD COPTIC AIN
bhDJA
bhESH
bhGANGIA
bhHA
bjT
biEI
biORI
bhOOU
bhSHEI
bjIMA
baNUBIAN NGI
biYI
bhSHIMA
bhWAU
xOU
wPI
xSI
wRO
wSAMPI
xHEI
yIMA
xIMA
xOU
wTAU
xHETHE
wUA
wVIDA
wZATA
iOMBINING NI ABOVE
rSPIRITUS ASPER
baLENIS
hEPACT DIGIT EIGHT
tFIVE
uOUR
tNINE
tONE
tSEVEN
uIX
tTHREE
uWO
nNUMBER EIGHT HUNDRED
zY
uFIFTY
wVE HUNDRED
vORTY
wUR HUNDRED
uNINE HUNDRED
yTY
uONE HUNDRED
uSEVEN HUNDRED
zTY
vIX HUNDRED
xTY
uTEN
vHIRTY
wREE HUNDRED
vWENTY
wO HUNDRED
nTHOUSANDS MARK
hFRACTION ONE HALF
iULL STOP
hMORPHOLOGICAL DIVIDER
hOLD NUBIAN DIRECT QUESTION MARK
sFULL STOP
sINDIRECT QUESTION MARK
sVERSE DIVIDER
hSMALL LETTER AKHMIMIC KHEI
vLFA
uBOHAIRIC KHEI
uCROSSED SHEI
wYPTOGRAMMIC EIE
biGANGIA
biNI
biSHEI
uDALDA
vEI
vIALECT-P ALEF
beHORI
beKAPA
beNI
uEIE
uFEI
vI
uGAMMA
wNGIA
uHATE
vORI
uIAUDA
uKAPA
vHEI
wI
vSI
uL-SHAPED HA
vAULA
uMI
uNI
uO
vLD COPTIC AIN
bfDJA
bfESH
bfGANGIA
bfHA
bhT
bgEI
bgORI
bfOOU
bfSHEI
bhIMA
yNUBIAN NGI
bgYI
bfSHIMA
bfWAU
vOU
uPI
vSI
uRO
uSAMPI
vHEI
wIMA
vIMA
vOU
uTAU
vHETHE
uUA
uVIDA
uZATA
iYMBOL KAI
pHI RO
oMI RO
oPI RO
oSHIMA SIMA
pTAUROS
oTAU RO
dYLEFT SYMBOL
eRIGHT SIGN
cRAL
dNISH VERSE DIVIDER
dRESPONDS TO
cUCH AND LAMP
dNTERBORE
hSINK
fING ROD TENS DIGIT EIGHT
yFIVE
zOUR
yNINE
yONE
ySEVEN
zIX
yTHREE
zWO
nUNIT DIGIT EIGHT
yFIVE
zOUR
yNINE
yONE
ySEVEN
zIX
yTHREE
zWO
dPLE WITH HEART
cW
d FACE
bR
cAB
cEDIT CARD
dSCENT MOON
cICKET
h BAT AND BALL
cOCODILE
dISSANT
dSS MARK
gOF JERUSALEM
jLORRAINE
gPATTY WITH LEFT CROSSBAR
rRIGHT CROSSBAR
hOMMEE
m WITH HALF-CIRCLE BELOW
fED FLAGS
iNEGATIVE SQUARED LATIN CAPITAL LETTER P
iSWORDS
fING LANES
dWN
cUTCH
dZEIRO SIGN
cYING CAT FACE
hFACE
dSTAL BALL
bSI
bUBE ROOT
cCUMBER
cNEIFORM NUMERIC SIGN EIGHT ASH
bdDISH
bdGESH2
bdSHAR2
bdU
be VARIANT FORM
bdVARIANT FORM USSU
bu3
yLAMITE FIFTY
bgORTY
bfONE THIRD
bfTWO THIRDS
xFIVE ASH
bf TENU
bcBAN2
bg VARIANT FORM
bdURU
bcDISH
bcGESH2
bgU
bcSHAR2
bgU
bdIXTHS DISH
bcU
bd VARIANT FORM
yOUR ASH
bf TENU
bcBAN2
bg VARIANT FORM
bdURU
bcDISH
bcGESH2
bgU
bcSHAR2
bgU
bcU
bd VARIANT FORM
bcVARIANT FORM LIMMU
bu A
bvB
bu4
xNIGIDAESH
bdMIN
zNE ASH
bcDISH
bcGESH2
bcSHAR2
bcU
bd VARIANT FORM
bcVARIANT FORM ILIMMU
bv A
bv3
bv4
xOLD ASSYRIAN ONE QUARTER
boSIXTH
yNE BAN2
bcURU
bbEIGHTH ASH
bcSHE3
bbGESH2
bfU
bbHALF GUR
bbQUARTER ASH
bjGUR
bbSHARU
bbTHIRD DISH
bhVARIANT FORM A
xSEVEN ASH
bdDISH
bdGESH2
bdSHAR2
bdU
be VARIANT FORM
bdVARIANT FORM IMIN A
bvB
bu3
yHAR2 TIMES GAL PLUS DISH
bsMIN
yIX ASH
be TENU
bbDISH
bbGESH2
bbSHAR2
bbU
bc VARIANT FORM
bbVARIANT FORM ASH9
xTHREE ASH
bg TENU
bdBAN2
beURU
bh VARIANT FORM
bdDISH
bdGESH2
bhU
bdSHAR2
bi VARIANT FORM
bhU
bi VARIANT FORM
bdVARIANT FORM ESH16
bt21
yWO ASH
be TENU
bbBAN2
bcURU
bbESHE3
bbGESH2
bfU
bbSHAR2
bfU
bbTHIRDS DISH
biVARIANT FORM A
kPUNCTUATION SIGN DIAGONAL COLON
bkQUADCOLON
bkTRICOLON
bbOLD ASSYRIAN WORD DIVIDER
bbVERTICAL COLON
kSIGN A
q TIMES A
xBAD
xGAN2 TENU
xHA
xIGI
xLAGAR GUNU
xMUSH
xSAG
q2
qB
r GUNU
sTIMES ASH2
yDUN3 GUNU
yGAL
baN2 TENU
yHA
yIGI GUNU
zMIN
yLAGAB
yNUN
bb TENU
ySHESH
baU2
yU PLUS U PLUS U
r2
s TIMES A
zBALAG
zGAN2 TENU
zME PLUS EN
zSHA3
zTAK4
qD
r TIMES ESH2
qK
r TIMES ERIN2
ySHITA PLUS GISH
qL
r TIMES AL
yDIM2
yGISH
yHA
yKAD3
zI
ySHE
yUSH
rAN
rEPH
qMAR
t TIMES KUG
baSHE
qN
r OVER AN
sPLUS NAGA OPPOSING AN PLUS NAGA
bcSQUARED
sTHREE TIMES
rSHE
qPIN
qRAD
t TIMES KUR
rKAB
qSAL2
rH
s KABA TENU
tOVER ASH OVER ASH
bk CROSSING ASH OVER ASH OVER ASH
bcTUG2 OVER TUG2 TUG2 OVER TUG2 PAP
tZIDA TENU
s2
sGAB
pBA
rD
s TIMES DISH TENU
rG3
rHAR2
v TIMES AB2
bcNI
bcZA
rL
s OVER BAL
sAG
rR
sA2
qI
r TIMES A
yGAR
yIGI GUNU
qU
r CROSSING BU
sOVER BU AB
baTIMES NA2
baUN
rLUG
u OVER BULUG
rR
s2
pDA
r TIMES TAK4
rG
s KISIM5 TIMES A PLUS MASH
bhMAR
bgBALAG
bhI
bgGA
bi PLUS MASH
bhI
biR2
bhUD
bgHA
bgIR
bi PLUS LU
bgKAK
bgLA
bhU
bi PLUS MASH2
biM
bgNE
bgPAP PLUS PAP
bgSI
bgTAK4
bgU2 PLUS GIR2
boMASH
bhSH
tTIMES KUR
s3
rM
rR
sA3
t4
qI
rB
rM
s TIMES IGI
zSHE
zU U U
s2
t TIMES UD
rN
s KASKAL U GUNU DISH
rSH
t PLUS SHU
qU
r GUNU
sOVER DU
sSHESHIG
rB
s TIMES ESH2
zSHE
s2
rG
s TIMES ANSHE
baSH
bc AT LEFT
zDIN
baUN
zERIN2
zGA
baI
bbR2 GUNU
bbSH
zHA
baI
zIGI GUNU
zKASKAL
baUR
bbSHU2
bf PLUS KASKAL
zLAK-020
bbM
bc TIMES KUR
baUH PLUS GISH
zMASH
baES
baI
zNI
zPI
zSHE
baI GUNU
sUD
rH
rN
s3
t GUNU
y GUNU
s4
rR2
pE
q OVER E NUN OVER NUN
rTIMES PAP
q2
r TIMES A PLUS HA PLUS DA
yGAR
yKUR
yMI
yPAP
ySAL
zHE
yU
qDIN
qGIR
qL
qN
r CROSSING EN
sOPPOSING EN
sSQUARED
sTIMES GAN2
bc TENU
yME
qREN
rIN2
u X
qSH2
t CROSSING ESH2
qZEN
t SHESHIG TIMES ASH
biHI
biIGI GUNU
biLA
bkL
biME
bkS
biSU
uTIMES A
bb PLUS LAL
bk TIMES LAL
bbN
baBAD
baDUN3 GUNU
bj GUNU
baGUD
baHA
bc GUNU
baIGI GUNU
baKASKAL
bg SQUARED
bbU3
baLA
bcL TIMES LAL
bbI
bbU
baSHE
bbU
baU2
bbD
pGA
r GUNU
r2
s OVER GA2
tTIMES A PLUS DA PLUS HA
bgHA
bgIGI
baB2 TENU PLUS TAB
baN
bb PLUS KAK PLUS A
baSH
bc2
bd PLUS GAL
zBAD
bbHAR2
bbR PLUS RA
baUR
bc PLUS RA
zDA
baI
bbM GUNU
bdTIMES SHE
baUB
bbG TIMES IGI GUNU
bjKASKAL
zEL
bb PLUS LA
baN
bb TIMES GAN2 TENU
baREN
zGA
bbN2 TENU
bbR
bc PLUS DI
biNE
baI
bb4
bc PLUS A
bbR2 PLUS SU
zHA PLUS A
bhLU PLUS ESH2
bbL
bc PLUS LA
baI PLUS LI
baUB2
zIGI GUNU
baSH PLUS HU PLUS ASH
zKAK
bbSKAL
baID
bc PLUS LAL
baU3 PLUS AN
bbSHU2 PLUS KASKAL
zLA
bbM
bc TIMES KUR
baUH
zME PLUS EN
baI
baUSH
zNE
bb PLUS E2
bhGI
baUN
bc OVER NUN
zPA
zSAL
bbR
baHE
bc PLUS TUR
bbID
bcM
baUM
zTAK4
zU
baD
bb PLUS DU
zZIZ2
rBA
t CROSSING GABA
uROTATED NINETY DEGREES
rD
s OVER GAD GAR OVER GAR
rL
s GAD OVER GAD GAR OVER GAR
sAM
rM
rN
s2
t CROSSING GAN2
uOVER GAN2
uTENU
rR
s3
rSHAN
qE22
rSHTIN
w TIMES KUR
bdU
qI
r CROSSING GI
sTIMES E
yU
r4
s CROSSING GI4
tOVER GI4
rDIM
rG
rR2
t GUNU
s3
t TIMES A PLUS IGI
baGAN2 TENU
baIGI
baLU PLUS IGI
baPA
rSAL
sH
t CROSSING GISH
uTENU
vIMES BAD
baGISH CROSSING GISH
baTAK4
qU
r CROSSING GU
r2
s GUNU
tTIMES IGI GUNU
zKAK
bc TIMES IGI GUNU
zNUN
zSAL PLUS TUG2
rD
s OVER GUD LUGAL
tPLUS GISH TIMES TAK4
tTIMES A PLUS KUR
zKUR
rL
rM
s TIMES SHE
rR
s7
sUN
tSH
pHA
r GUNU
sTENU
w GUNU
rL
qI
r TIMES ASH
bb OVER HI TIMES ASH
bb2
yBAD
yDISH
yGAD
yKIN
yNUN
ySHE
yU
qU
rB2
t TIMES AN
baHAL
baKASKAL
baLISH
baUD
rL2
rSH
pI
q A
qB
qDIM
t OVER IDIM BUR
beSQUARED
qG
rI
s DIB
tGUNU
tOVER IGI SHIR OVER SHIR UD OVER UD
tRI
qL
r TIMES GAN2 TENU
r2
qM
r CROSSING IM
sOPPOSING IM
sSQUARED
sTIMES TAK4
rIN
qN
qR
qSH
pKA
r TIMES A
zD
ba PLUS KU3
zNSHE
zSH2
bb3
yBAD
baLAG
baR
zI
zU
yERIN2
zSH2
yGA
baL
baN2 TENU
baR
bb PLUS SHA3 PLUS A
zI
baR2
baSH
bc CROSSING GISH
bdPLUS SAR
zU
baD
baR7
yHI TIMES ASH2
yIGI
zM
yKA
baK
zI
baD
yLI
zU
baM
yME
ba PLUS DU
bgGI
bgTE
zI
ba PLUS NUNUZ
yNE
zUN
yPA
zI
yRU
ySA
baR
zHA
baE
baID
baU
bbL
zIG
zUHUR
yTAR
zU
yU
z U U
z2
zD
zMUM TIMES PA
zR
ba2
zSH
yZI
r2
s CROSSING KA2
rB
rD2
s3
s4
s5
t OVER KAD5
rK
s TIMES IGI GUNU
rL
s CROSSING KAL
tTIMES BAD
rM2
s4
rP ELAMITE
rSKAL
v LAGAB TIMES U OVER LAGAB TIMES U
wOVER KASKAL LAGAB TIMES U OVER LAGAB TIMES U
qESH2
qI
r TIMES BAD
yU
zD
rD
rN
rSAL
sH
sIM5
v OVER KISIM5
qU
r OVER HI TIMES ASH2 KU OVER HI TIMES ASH2
r3
r4
s VARIANT FORM
r7
rL
s GUNU
rN
rR
s OPPOSING KUR
rSHU2
qWU318
pLA
rGAB
u SQUARED
vTIMES A
bc PLUS DA PLUS HA
biGAR
biLAL
bcL
bcN
bcSH ZIDA TENU
bbBAD
bcI
bbDAR
bbEN
bbGA
bdR
bcI
bcUD
be PLUS GUD
bbHA
bdL
bcI TIMES NUN
bbIGI GUNU
bcM
bd PLUS HA
bjLU
bbKI
bdN
bcU3
bdL
be PLUS HI PLUS A
bbLAGAB
bcISH
bcU
bdL
bbME
bd PLUS EN
bcUSH
bbNE
bbSHE PLUS SUM
bdITA PLUS GISH PLUS ERIN2
brTENU
bdU2
bf PLUS SHU2
bcUM
bbTAG
bdK4
bcE PLUS A PLUS SU PLUS NA
bbU
bc PLUS A
biU PLUS U
bc2 PLUS ASH
bcD
bcSH
bbZU OVER ZU
tR
u GUNU
z OVER LAGAR GUNU SHE
vTIMES SHE
be PLUS SUM
rHSHU
rK-003
u21
v5
u30
u50
v1
u62
u79 OVER LAK-079 GUNU
u80
v1 OVER LAK-081
u92
t130
u42
t210
v9
u20
v5
v8
u38
u65
v6
t343
v7
v8
u83
v4
u90
t441
v9
w TIMES GU
bdIGI
bdPAP PLUS LU3
bmPAP PLUS LU3
bdU2 PLUS BA
u50
v7
u70
u83
u90
v2
v3
v5
t550
t608
u17
w TIMES ASH
bdBAD
bdDUN3 GUNU GUNU
bdKU3
bdLA
bdTAR
beE
bdU2
beD
beRUDA
u36
u48
w TIMES DUB
bdGA
bdIGI
bg GUNU
bdNI
bdPAP PLUS PAP PLUS LU3
bdSHESH PLUS KI
bdUD
beRUDA
t724
u49
rL
s TIMES LAL
rM
s TIMES KUR
bc PLUS RU
qI
rL
rMMU2
rSH
qU
r TIMES BAD
r2
s CROSSING LU2
tGUNU TIMES ASH
tOPPOSING LU2
tSHESHIG
ba TIMES BAD
uQUARED
tTENU
uIMES AL
zBAD
zDISH
zESH2
bd PLUS LAL
beTENU
zGAN2 TENU
zHAL
baI TIMES BAD
zIM
zKAD2
bc3
bd PLUS ASH
baI
zLA PLUS ASH
bbGAB
zME PLUS EN
zNE
baU
zPAP
bc PLUS PAP PLUS LU3
zSHU
baI PLUS ASH
bbK2 PLUS BU
zTAK4
baUG2
r3
rGAL
u OPPOSING LUGAL
wVER LUGAL
vSHESHIG
rH
rL
rM
s OVER LUM
bb GAR OVER GAR
pMA
r GUNU
sTIMES TAK4
r2
rH
rR
rSH
t2
qE
rS
sH
qI
r PLUS ZA7
rN
qU
r OVER MU
rG
s GUNU
rNSUB
rRGU2
rSH
t CROSSING MUSH
uOVER MUSH
bd TIMES A PLUS NA
bkGA
bkKAK
uTIMES A
baKUR
baZA
t3
u GUNU
vTIMES A
bc PLUS DI
bbDI
bbZA
pNA
r2
r4
rGA
t INVERTED
uOPPOSING NAGA
uTIMES SHU TENU
tR
rM
s NUTILLU
s2
qE
r SHESHIG
sTIMES A
yUD
qI
r TIMES E
r2
rM
s TIMES GAN2 TENU
bbR PLUS GAN2 TENU
rN
s9
sDA2
v TIMES AN
bdSH
bf PLUS ASH
bcBAL
bcDIM GUNU
bcGI
beSH
bdUD
beL
bcHI
bcKESH2
bcLAK-050
bcMASH
bdE PLUS GAN2 TENU
bcNE
bdUN
bcPAP PLUS PAP
bcSHE
bf PLUS A AN
bmSH
bo PLUS ASH
bcU
bd PLUS U
bd2 PLUS ASH
bdRUDA
bdSH
rSAG
qU
r11
t OVER NU11 BUR OVER BUR
uROTATED NINETY DEGREES
uTENU
rN
s CROSSING NUN
bf LAGAR OVER LAGAR
tLAGAR TIMES GAR
bfMASH
bfSAL
bi OVER NUN LAGAR TIMES SAL
bfUSH
tOVER NUN
tTENU
sUZ
u AB2 TIMES ASHGAB
bfBI
bfDUG
bfGUD
bfIGI GUNU
bfKAD3
bfLA
bfNE
bfSILA3
bfU2
vKISIM5 TIMES BI
bk U
pPA
rD
rN
rP
qESH2
u ASTERISK
qI
r CROSSING PI
sTIMES A
zB
yBI
zU
yE
yI
zB
yU
z2
rR2
sIG
u OPPOSING PIRIG
vTIMES KAL
bbUD
bbZA
pRA
rB
qI
qU
pSA
rG
s GUNU
x TIMES HA
tNUTILLU
tOVER SAG
tTIMES A
zDU
bbB
zEN
zHA
zIGI GUNU
zKAK
baUR
zLUM
zMI
zNUN
zSAL
baHE AT LEFT
bbID
zTAB
bbK4
zU2
baB
baM
baR
baSH
rL
s LAGAB TIMES ASH2
rNGA2
rR
qHA
s3
t TIMES A
baBAD
baGISH
baNE
baSHU2
baTUR
baU
bb PLUS A
s6
t TENU
sB6
sR2
rE
s HU
tOVER SHE
bb GAD OVER GAD GAR OVER GAR
bcTAB OVER TAB GAR OVER GAR
tPLUS HUB2
yNAM2
ySAR
sG9
sN
sSH
u2
uLAM
rID
t TIMES A
baIM
sM
t TIMES A
baBAL
bbULUG
baDIN
baGAR
baIGI
bd GUNU
baKUSHU2
baLUL
baMUG
baSAL
sNIG
sR
t OVER SHIR BUR OVER BUR
uTENU
sTA
rU
s OVER INVERTED SHU
s2
t PLUS DUG TIMES NI
zE2 TIMES AN
sBUR
qI
r GUNU
sTIMES TAK4
rG
s4
t OVER SIG4 SHU2
rK2
rLA3
qU
r OVER SU
rD
s2
rHUR
rM
sASH
rR
s9
pTA
r ASTERISK
sGUNU
sTIMES HI
yMI
rB
s OVER TAB NI OVER NI DISH OVER DISH
tSQUARED
rG
s TIMES BI
zGUD
zSHE
bbU
zTUG2
zUD
rK4
t PLUS SAG
rR
qE
r GUNU
qI
r TENU
r2
rL
rR
s OVER TIR
bb GAD OVER GAD GAR OVER GAR
tTIMES TAK4
qU
rG2
rK
rM
s TIMES GAN2 TENU
zTHREE DISH
rR
s OVER TUR ZA OVER ZA
pU
q GUD
rOVER U PA OVER PA GAR OVER GAR
ySUR OVER SUR
yU REVERSED OVER U REVERSED
rU
s U
q2
qB
qD
r GUNU
sKUSHU2
sSHESHIG
z TIMES BAD
sTIMES BAD
yMI
yU PLUS U PLUS U
bn GUNU
rUG
qM
r TIMES LAGAB
yME
ba PLUS DA
ySHA3
yU
rBIN
rUM
t TIMES KASKAL
baPA
qN
r GUNU
qR
r CROSSING UR
sSHESHIG
r2
s INVERTED
tTIMES A PLUS HA
bgNA
baL
zHA
zNUN
zU2
bb PLUS ASH
bhBI
baD
r4
rI
s3
rU
s TIMES A
baSHGAB
zBAR
zDARA3
baUN
zGA
bbL
bbN2 TENU
bbR
baU
zHA
zIGI
baM
baSH
zKI
zLAK-668
baU3
bbM
zMIN
zPA
zSHE
baIG4
zTU
zU PLUS GUD
baD
baRUDA
sDA
u TIMES U
qSH
s TIMES A
zKU
bbR
zTAK4
s2
sUMX
sX
qTUKI
qZ3
s TIMES KASKAL
rU
pZA
r SQUARED TIMES KUR
sTENU
r7
rG
rMX
qE2
qI
r OVER ZI
r3
rB
s KABA TENU
rG
rZ2
qU
r OVER ZU PLUS SAR
r5
s TIMES A
zTHREE DISH TENU
rBUR
rM
cP ON BLACK SQUARE
eWITH STRAW
dCAKE
dIDO
cRLING STONE
eY BRACKET EXTENSION
gLOGICAL AND
oOR
iOP
dRENCY EXCHANGE
jSIGN
eY AND RICE
dVED STEM PARAGRAPH SIGN ORNAMENT
cSTARD
eOMS
cT OF MEAT
bYCLONE
cLINDRICITY
cPRIOT SYLLABLE A
rE
rI
rJA
sO
rKA
sE
sI
sO
sU
rLA
sE
sI
sO
sU
rMA
sE
sI
sO
sU
rNA
sE
sI
sO
sU
rO
rPA
sE
sI
sO
sU
rRA
sE
sI
sO
sU
rSA
sE
sI
sO
sU
rTA
sE
sI
sO
sU
rU
rWA
sE
sI
sO
rXA
sE
rZA
sO
eO-MINOAN SIGN CM001
w2
w4
w5
w6
w7
w8
w9
v10
w1
w2
xB
w3
w5
w7
w9
v21
w3
w4
w5
w6
w7
w8
w9
v30
w3
w4
w5
w6
w7
w8
w9
v40
w1
w4
w6
w7
w9
v50
w1
w2
w3
w4
w5
w6
w8
w9
v60
w1
w2
w3
w4
w6
w7
w8
w9
v70
w1
w2
w3
w4
w5
xB
w6
w8
w9
v80
w1
w2
w3
w4
w5
w6
w7
w8
w9
v90
w1
w2
w4
w5
w6
w7
w8
w9
u100
w1
w2
w3
w4
w5
w7
w8
w9
v10
w2
w4
u301
w2
cRILLIC CAPITAL LETTER A
z WITH BREVE
bfDIAERESIS
zBKHASIAN CHE
bl WITH DESCENDER
biDZE
biHA
zLEUT KA
yBARRED O
bg WITH DIAERESIS
baSHKIR KA
zE
zIG YUS
baNOCULAR O
zLENDED YUS
zROAD OMEGA
zYELORUSSIAN-UKRAINIAN I
yCCHE
zHE
bb WITH DESCENDER
biIAERESIS
bhVERTICAL STROKE
zLOSED LITTLE YUS
zROSSED O
yDCHE
zE
zJE
bbRV
zOUBLE MONOCULAR O
bfO
zWE
zZE
bbLO
baHE
baWE
baZE
bbHE
yE
z WITH DIAERESIS
zF
zL
ba WITH DESCENDER
bgHOOK
bgMIDDLE HOOK
bgTAIL
zM
ba WITH TAIL
zN
ba WITH DESCENDER
bgHOOK
bgLEFT HOOK
bgMIDDLE HOOK
bgTAIL
zR
ba WITH TICK
zS
ba WITH DESCENDER
yFITA
yGHE
bb WITH DESCENDER
bhMIDDLE HOOK
bhSTROKE
bn AND HOOK
bhUPTURN
zJE
yHA
ba WITH DESCENDER
bgHOOK
bgSTROKE
baRD SIGN
zWE
yI
z WITH DIAERESIS
bfGRAVE
bfMACRON
zE
ba WITH BREVE
bgGRAVE
zO
baTA
bbIFIED A
bhBIG YUS
bhCLOSED LITTLE YUS
bhE
bhLITTLE YUS
bhYAT
zZHITSA
bf WITH DOUBLE GRAVE ACCENT
yJE
yKA
ba WITH DESCENDER
bgHOOK
bgSTROKE
bgVERTICAL STROKE
zHAKASSIAN CHE
zJE
zOMI DE
beJE
beZJE
bdLJE
bdNJE
bdSJE
bdTJE
bdZJE
baPPA
zSI
yLHA
zITTLE YUS
zJE
yMONOCULAR O
bcGRAPH UK
yNEUTRAL YER
zJE
yO
z WITH DIAERESIS
zMEGA
bd WITH TITLO
zT
yPE
ba WITH DESCENDER
bgMIDDLE HOOK
zSI
yQA
yREVERSED DZE
bhTSE
bhYU
bhZE
zHA
zOUND OMEGA
ySCHWA
bd WITH DIAERESIS
zEMISOFT SIGN
zHA
baCHA
baHA
bc WITH DESCENDER
baORT I
bf WITH TAIL
beU
baWE
zOFT DE
bdEL
beM
bdSIGN
zTRAIGHT U
bi WITH STROKE
yTCHE
zE
ba WITH DESCENDER
bgMIDDLE HOOK
zSE
baHE
baSE
baWE
zWE
yU
z WITH DIAERESIS
bgOUBLE ACUTE
bfMACRON
zK
baRAINIAN IE
yVE
yWE
yYA
baE
baT
zERU
bc WITH BACK YER
biDIAERESIS
zI
zN
zU
yZE
ba WITH DESCENDER
bhIAERESIS
baMLYA
zHE
bb WITH BREVE
bhDESCENDER
biIAERESIS
baWE
sIGATURE A IE
baEN GHE
baTE TSE
jKAVYKA
jLETTER MULTIOCULAR O
qPALOCHKA
qSMALL CAPITAL EL
jPAYEROK
jSMALL LETTER A
x WITH BREVE
bdDIAERESIS
xBKHASIAN CHE
bj WITH DESCENDER
bgDZE
bgHA
xLEUT KA
wBARRED O
be WITH DIAERESIS
ySHKIR KA
xE
xIG YUS
yNOCULAR O
xLENDED YUS
xROAD OMEGA
xYELORUSSIAN-UKRAINIAN I
wCCHE
xHE
z WITH DESCENDER
bgIAERESIS
bfVERTICAL STROKE
xLOSED LITTLE YUS
xROSSED O
wDCHE
xE
xJE
zRV
xOUBLE MONOCULAR O
bdO
xWE
xZE
zLO
yHE
yWE
yZE
zHE
wE
x WITH DIAERESIS
xF
xL
y WITH DESCENDER
beHOOK
beMIDDLE HOOK
beTAIL
xM
y WITH TAIL
xN
y WITH DESCENDER
beHOOK
beLEFT HOOK
beMIDDLE HOOK
beTAIL
xR
y WITH TICK
xS
y WITH DESCENDER
wFITA
wGHE
z WITH DESCENDER
bfMIDDLE HOOK
bfSTROKE
bl AND HOOK
bfUPTURN
xJE
wHA
y WITH DESCENDER
beHOOK
beSTROKE
yRD SIGN
xWE
wI
x WITH DIAERESIS
bdGRAVE
bdMACRON
xE
y WITH BREVE
beGRAVE
xO
yTA
zIFIED A
bfBIG YUS
bfCLOSED LITTLE YUS
bfE
bfLITTLE YUS
bfYAT
xZHITSA
bd WITH DOUBLE GRAVE ACCENT
wJE
wKA
y WITH DESCENDER
beHOOK
beSTROKE
beVERTICAL STROKE
xHAKASSIAN CHE
xJE
xOMI DE
bcJE
bcZJE
bbLJE
bbNJE
bbSJE
bbTJE
bbZJE
yPPA
xSI
wLHA
xITTLE YUS
xJE
xONG-LEGGED DE
wMONOCULAR O
baGRAPH UK
wNARROW O
xEUTRAL YER
xJE
wO
x WITH DIAERESIS
xMEGA
bb WITH TITLO
xT
wPALOCHKA
xE
y WITH DESCENDER
beMIDDLE HOOK
xSI
wQA
wREVERSED DZE
bfTSE
bfYU
bfZE
xHA
xOUND OMEGA
bbED VE
wSCHWA
bb WITH DIAERESIS
xEMISOFT SIGN
xHA
yCHA
yHA
ba WITH DESCENDER
yORT I
bd WITH TAIL
bcU
yWE
xOFT DE
bbEL
bcM
bbSIGN
xTRAIGHT U
bg WITH STROKE
wTALL HARD SIGN
bbTE
bbYAT
xCHE
xE
y WITH DESCENDER
beMIDDLE HOOK
xHREE-LEGGED TE
xSE
yHE
ySE
yWE
xWE
wU
x WITH DIAERESIS
beOUBLE ACUTE
bdMACRON
xK
yRAINIAN IE
xNBLENDED UK
wVE
wWE
xIDE ES
wYA
yE
yT
xERU
ba WITH BACK YER
bgDIAERESIS
xI
xN
xU
wZE
y WITH DESCENDER
bfIAERESIS
yMLYA
xHE
z WITH BREVE
bfDESCENDER
bgIAERESIS
yWE
qIGATURE A IE
yEN GHE
yTE TSE
jTHOUSANDS SIGN
aDAGGER
g KNIFE
hWITH LEFT GUARD
mRIGHT GUARD
cLET SYMBOL
cNCER
dGO
cRK SHADE
gUNGLASSES
cSH SYMBOL
fWITH LEFT UPTURN
eED LOW LINE
hOVERLINE
hTRIANGLE-HEADED RIGHTWARDS ARROW
cTA LINK ESCAPE
bC1
c2
c3
c4
cS
bEAF PERSON
cCIDUOUS TREE
eMAL EXPONENT SYMBOL
iSEPARATOR KEY SYMBOL
dREASE FONT SIZE SYMBOL
cER
cGREE CELSIUS
hFAHRENHEIT
hSIGN
cL
dETE
dIVERY TRUCK
dTA EQUAL TO
cNTISTRY SYMBOL LIGHT DOWN AND HORIZONTAL
bq WITH CIRCLE
bwTRIANGLE
bwWAVE
xUP AND HORIZONTAL
bo WITH CIRCLE
buTRIANGLE
buWAVE
xVERTICAL AND BOTTOM LEFT
brRIGHT
bkTOP LEFT
boRIGHT
bkWAVE
bgWITH CIRCLE
blTRIANGLE
cPARTMENT STORE
cRELICT HOUSE BUILDING
cSCENDING NODE
dERET CAPITAL LETTER AY
xBEE
xCHEE
xDEE
xEF
yL
yM
yN
zG
yR
yS
zH
yTH
yW
xGAY
xH
xJEE
xKAY
xLONG A
bdH
bcE
bcI
bcO
bdO
xOI
yW
xPEE
xSHORT A
beH
bdE
bdI
bdO
beO
xTEE
yHEE
xVEE
xWU
xYEE
xZEE
yHEE
iSMALL LETTER AY
vBEE
vCHEE
vDEE
vEF
wL
wM
wN
xG
wR
wS
xH
wTH
wW
vGAY
vH
vJEE
vKAY
vLONG A
bbH
baE
baI
baO
bbO
vOI
wW
vPEE
vSHORT A
bcH
bbE
bbI
bbO
bcO
vTEE
wHEE
vVEE
vWU
vYEE
vZEE
wHEE
fT
g ISLAND
dKTOP COMPUTER
iWINDOW
cVANAGARI ABBREVIATION SIGN
mCUTE ACCENT
lCARET
lDANDA
mIGIT EIGHT
rFIVE
sOUR
rNINE
rONE
rSEVEN
sIX
rTHREE
sWO
rZERO
mOUBLE DANDA
lGAP FILLER
mRAVE ACCENT
lHEADSTROKE
lJAIN OM
lLETTER A
tA
tI
tU
tW
tY
sBA
tBA
tHA
sCA
uNDRA A
zE
zO
tHA
sDA
tDA
uDA
vHA
uHA
tHA
sE
sFA
sGA
tGA
tHA
uHA
tLOTTAL STOP
sHA
tEAVY YA
sI
tI
sJA
tHA
tJA
sKA
tHA
uHA
sLA
tLA
uLA
sMA
uRWARI DDA
sNA
tGA
tNA
uNA
tYA
sO
tE
tOE
sPA
tHA
sQA
sRA
tHA
tRA
sSA
tHA
uORT A
yE
yO
tSA
sTA
tHA
tTA
uHA
sU
tE
tU
uE
sVA
tOCALIC L
bbL
baR
bbR
sYA
tYA
sZA
tHA
lOM
lSIGN ANUSVARA
rVAGRAHA
qCANDRABINDU
bb AVAGRAHA
bcTHREE
bdWO
bcVIRAMA
qDOUBLE CANDRABINDU VIRAMA
qHIGH SPACING DOT
qINVERTED CANDRABINDU
qNUKTA
qPUSHPIKA
qSIDDHAM
rPACING CANDRABINDU
qVIRAMA
sSARGA
mTRESS SIGN ANUDATTA
xUDATTA
lVOWEL SIGN AA
xI
xU
xW
xY
wCANDRA E
bdLONG E
bdO
wE
wI
xI
wO
xE
xOE
wPRISHTHAMATRA E
wSHORT E
bcO
wU
xE
xU
yE
wVOCALIC L
bfL
beR
bfR
dICE CONTROL FOUR
pONE
pSTRING
pTHREE
qWO
bIAERESIS
dMETER SIGN
eOND OPERATOR
iSHAPE WITH A DOT INSIDE
iTARGET
iWITH BOTTOM HALF BLACK
nLEFT HALF BLACK
nRIGHT HALF BLACK
nTOP HALF BLACK
cE FACE-1
j2
j3
j4
j5
j6
dSEL LOCOMOTIVE
cFFERENCE BETWEEN
cGIT EIGHT
l COMMA
mFULL STOP
gFIVE
k COMMA
lFULL STOP
hOUR
k COMMA
lFULL STOP
gNINE
k COMMA
lFULL STOP
gONE
j COMMA
kFULL STOP
gSEVEN
l COMMA
mFULL STOP
hIX
j COMMA
kFULL STOP
gTHREE
l COMMA
mFULL STOP
hWO
j COMMA
kFULL STOP
gZERO
k COMMA
lFULL STOP
dRAM FOR EARTH
qLY HEAVEN
uUMAN
lGREATER YANG
uIN
lHEAVENLY EARTH
mUMAN EARTH
lLESSER YANG
tIN
cMENSION ORIGIN
cNGBAT CIRCLED SANS-SERIF DIGIT EIGHT
bhFIVE
biOUR
bhNINE
bhONE
bhSEVEN
biIX
bhTHREE
biWO
bhZERO
bbNUMBER TEN
iNEGATIVE CIRCLED DIGIT EIGHT
bfFIVE
bgOUR
bfNINE
bfONE
bfSEVEN
bgIX
bfTHREE
bgWO
zNUMBER TEN
zSANS-SERIF DIGIT EIGHT
bqFIVE
brOUR
bqNINE
bqONE
bqSEVEN
brIX
bqTHREE
brWO
bqZERO
bkNUMBER TEN
cRECT CURRENT SYMBOL FORM TWO
hHIT
cSABLED CAR
ePPOINTED BUT RELIEVED FACE
nFACE
dCONTINUOUS UNDERLINE SYMBOL
dGUISED FACE
cTTO MARK
cVES AKURU DIGIT EIGHT
sFIVE
tOUR
sNINE
sONE
sSEVEN
tIX
sTHREE
tWO
sZERO
nOUBLE DANDA
mEND OF TEXT MARK
mGAP FILLER
mINITIAL RA
mLETTER A
uA
tBA
uHA
tCA
uHA
tDA
uDA
vHA
uHA
tE
tGA
uHA
tHA
tI
uI
tJA
tKA
uHA
tLA
uLA
tMA
tNA
uGA
uNA
uYA
tO
tPA
uHA
tRA
tSA
uHA
uSA
tTA
uHA
uTA
tU
uU
tVA
tYA
uYA
tZA
mMEDIAL RA
tYA
mPREFIXED NASAL SIGN
mSIGN ANUSVARA
rCANDRABINDU
rHALANTA
rNUKTA
mVIRAMA
nOWEL SIGN AA
yI
xE
xI
yI
xO
xU
yU
dIDES
eNG MASK
eSION SIGN
kLASH
jTIMES
dORCE SYMBOL
cYA LAMP
cZZY FACE
gSYMBOL
bLE
bNA DOUBLE HELIX
bO NOT LITTER SYMBOL
cCUMENT
i WITH PICTURE
oTEXT
s AND PICTURE
cDO
cES NOT CONTAIN AS MEMBER
uNORMAL SUBGROUP
bj OR EQUAL
jDIVIDE
p WITH REVERSED NEGATION SLASH
jFORCE
jPRECEDE
q OR EQUAL
lOVE
jSUCCEED
q OR EQUAL
cG
d FACE
dRA ABBREVIATION SIGN
gLETTER A
oA
oI
oU
nBA
oHA
nCA
oHA
nDA
oDA
pHA
oHA
nE
nGA
oHA
nHA
nI
oI
nJA
oHA
nKA
oHA
nLA
nMA
nNA
oGA
oNA
oYA
nO
nPA
oHA
nRA
oRA
nSA
oHA
oSA
nTA
oHA
oTA
pHA
nU
oU
nVA
nYA
gSIGN ANUSVARA
lNUKTA
lVIRAMA
nSARGA
gVOWEL SIGN AA
sI
sU
rE
rI
sI
rO
rU
sU
rVOCALIC R
baR
cLLAR SIGN
dPHIN
cMINO TILE HORIZONTAL BACK
w-00-00
bb1
bb2
bb3
bb4
bb5
bb6
y1-00
bb1
bb2
bb3
bb4
bb5
bb6
y2-00
bb1
bb2
bb3
bb4
bb5
bb6
y3-00
bb1
bb2
bb3
bb4
bb5
bb6
y4-00
bb1
bb2
bb3
bb4
bb5
bb6
y5-00
bb1
bb2
bb3
bb4
bb5
bb6
y6-00
bb1
bb2
bb3
bb4
bb5
bb6
mVERTICAL BACK
u-00-00
z1
z2
z3
z4
z5
z6
w1-00
z1
z2
z3
z4
z5
z6
w2-00
z1
z2
z3
z4
z5
z6
w3-00
z1
z2
z3
z4
z5
z6
w4-00
z1
z2
z3
z4
z5
z6
w5-00
z1
z2
z3
z4
z5
z6
w6-00
z1
z2
z3
z4
z5
z6
cNG SIGN
cOR
cT ABOVE
eMINUS
eOPERATOR
ePLUS
dTED CIRCLE
iROSS
hFENCE
hLINE FACE
hOBELOS
hRIGHT-POINTING ANGLE
hSOLIDUS
iQUARE
hTRANSPOSITION MARKER
cUBLE ACUTE ACCENT
hCIRCLED DIGIT EIGHT
vFIVE
wOUR
vNINE
vONE
vSEVEN
wIX
vTHREE
wWO
pNUMBER TEN
iOLON EQUAL
iURLY LOOP
hDAGGER
iOWN TACK
hEXCLAMATION MARK
hHIGH-REVERSED-9 QUOTATION MARK
iYPHEN
hINTEGRAL
lRSECTION
hLEFT ARC GREATER-THAN BRACKET
iOGICAL AND
pOR
jW LINE
k-9 QUOTATION MARK
lREVERSED-9 QUOTATION MARK
hNESTED GREATER-THAN
oLESS-THAN
x WITH UNDERBAR
hOBLIQUE HYPHEN
hPLUS
iRECEDES
jIME
m QUOTATION MARK
hQUESTION MARK
hRIGHT ARC LESS-THAN BRACKET
hSOLIDUS OPERATOR
iQUARE INTERSECTION
oUNION
iTACKED COMMA
jROKE NOT SIGN
iUBSET
jCCEEDS
jPERSET
jSPENSION MARK
hUNION
iP TACK
hVERTICAL BAR
t DOUBLE LEFT TURNSTILE
bbRIGHT TURNSTILE
uLEFT TURNSTILE
qLINE
hWAVY OVERLINE
g-ENDED MULTIMAP
hLINE EQUAL TO OR GREATER-THAN
yLESS-THAN
mSLANTED EQUAL TO OR GREATER-THAN
bgLESS-THAN
uGREATER-THAN OR EQUAL TO
uLESS-THAN OR EQUAL TO
hSTRUCK CAPITAL C
wGAMMA
wH
wN
wP
xI
wQ
wR
wZ
oITALIC CAPITAL D
vSMALL D
bbE
bbI
bbJ
oN-ARY SUMMATION
oSMALL GAMMA
uPI
gD FEMALE SIGN
iMALE SIGN
iSYMBOL
dGHNUT
cVE OF PEACE
cWN ARROWHEAD
fFISH TAIL
fRIGHT DIAGONAL ELLIPSIS
fTACK
j WITH CIRCLE BELOW
e-POINTING RED TRIANGLE
oSMALL RED TRIANGLE
oTRIANGLE WITH LEFT HALF BLACK
bcRIGHT HALF BLACK
eWARD FACING HOOK
u WITH DOT
qNOTCHED HOOK
bc WITH DOT
iS ANCORA
lRROW
p AND RIGHT ONE EIGHTH BLOCK
qFROM BAR
qLEFTWARDS OF UPWARDS ARROW
qTO BAR
qWITH CORNER LEFTWARDS
vDOUBLE STROKE
vEQUILATERAL ARROWHEAD
vHORIZONTAL STROKE
vLARGE TRIANGLE ARROWHEAD
vMEDIUM TRIANGLE ARROWHEAD
vNOTCHED TAIL
vSMALL EQUILATERAL ARROWHEAD
bbTRIANGLE ARROWHEAD
vTIP LEFTWARDS
zRIGHTWARDS
kBLACK ARROW
qCIRCLED WHITE ARROW
kCOMPRESSED ARROW
kDASHED ARROW
lOUBLE ARROW
kFINGER-POST ARROW
kHARPOON WITH BARB LEFT BESIDE DOWNWARDS HARPOON WITH BARB RIGHT
boUPWARDS HARPOON WITH BARB RIGHT
bhFROM BAR
bhTO BAR
bgWARDS
bcRIGHT FROM BAR
biTO BAR
bhWARDS
lEAVY ARROW
qCOMPRESSED ARROW
kPAIRED ARROWS
kQUADRUPLE ARROW
kROCKET
kSANS-SERIF ARROW
lQUARED ARROW
kTRIANGLE ARROWHEAD
s-HEADED ARROW
bf LEFTWARDS OF UPWARDS TRIANGLE-HEADED ARROW
bgTO BAR
bgWITH BOLD SHAFT
blDOUBLE HORIZONTAL STROKE
blHEAVY SHAFT
blLONG TIP LEFTWARDS
buRIGHTWARDS
blMEDIUM SHAFT
blNARROW SHAFT
blVERY HEAVY SHAFT
baDASHED ARROW
baPAIRED ARROWS
baZIGZAG ARROW
nPLE ARROW
lWO HEADED ARROW
n-HEADED ARROW WITH TRIANGLE ARROWHEADS
kWHITE ARROW
v WITHIN TRIANGLE ARROWHEAD
kZIGZAG ARROW
bRACHMA SIGN
dFTING POINT RIGHTWARDS ARROW
dGON
g FACE
cESS
cIVE SLOW SIGN
cOMEDARY CAMEL
dOLING FACE
dP OF BLOOD
eLET
cUM WITH DRUMSTICKS
bUCK
cMPLING
cPLOYAN AFFIX ATTACHED E HOOK
yI HOOK
yLEFT-TO-RIGHT SECANT
ySECANT
yTAIL
baNGENT
bf HOOK
pHIGH ACUTE
uCIRCLE
uDOT
uGRAVE
uLINE
vONG GRAVE
uTIGHT ACUTE
uVERTICAL
bc SECANT
uWAVE
pLEFT HORIZONTAL SECANT
qOW ACUTE
uRROW
tCIRCLE
tDOT
tGRAVE
tLINE
uONG GRAVE
tTIGHT ACUTE
tVERTICAL
bb SECANT
tWAVE
pMID HORIZONTAL SECANT
tVERTICAL SECANT
pRIGHT HORIZONTAL SECANT
jDOUBLE MARK
jLETTER A
rOU
qB
qD
r S
rH
qE
rE
rU
qF
r N
qG
r R S
qH
rL
qI
rE
qJ
r M
t S
sN
t S
sS
t WITH DOT
sWITH DOT
baS INSIDE AND ABOVE
qK
r M
sR S
rK
qL
rH
rONG I
vU
qM
r N
t S
sS
sWITH DOT
qN
r M
t S
sS
sWITH DOT
rASAL A
wI
wO
wU
qO
rA
rOH
rU
rW
qP
r N
rERNIN AM
yN
qR
r S
rH
rOMANIAN I
zU
qS
r J
t S
sK
t R
sM
sN
sP
t R
sS
sT
t R
sWITH DOT
ba BELOW
rHORT I
rLOAN AN
wDH
wEE
xH
xN
wJ
wON
xW
wU
qT
r R S
sS
rH
qU
r N
rH
rI
qV
rOCALIC M
qW
r R
rA
rEI
rH
rI
rO
sW
qX
rW
qYE
jPUNCTUATION CHINOOK FULL STOP
jSIGN O WITH CROSS
jTHICK LETTER SELECTOR
bVD
aE-MAIL SYMBOL
bAGLE
cR
d OF MAIZE
hRICE
eWITH HEARING AID
dTH
f GLOBE AMERICAS
nSIA-AUSTRALIA
mEUROPE-AFRICA
hROUND
cST SYRIAC CROSS
bDITORIAL CORONIS
bGG
cYPTIAN HIEROGLYPH A001
x2
x3
x4
x5
yA
x6
yA
yB
x7
x8
x9
w10
x1
x2
x3
x4
yA
x5
x6
x7
yA
x8
x9
w20
x1
x2
x3
x4
x5
x6
x7
x8
x9
w30
x1
x2
yA
x3
x4
x5
x6
x7
x8
x9
w40
yA
x1
x2
yA
x3
yA
x4
x5
yA
x6
x7
x8
x9
w50
x1
x2
x3
x4
x5
x6
x7
x8
x9
w60
x1
x2
x3
x4
x5
x6
x7
x8
x9
w70
vA001
y2
y3
y4
y5
y6
y7
zA
zB
y8
y9
x10
y1
y2
y3
y4
y5
y6
y7
y8
y9
x20
y1
y2
y3
y4
y5
y6
y7
y8
y9
x30
y1
y2
uB001
x2
x3
x4
x5
yA
x6
x7
x8
x9
vEGIN SEGMENT
uC001
x2
yA
yB
yC
x3
x4
x5
x6
x7
x8
x9
w10
yA
x1
x2
x3
x4
x5
x6
x7
x8
x9
w20
x1
x2
x3
x4
uD001
x2
x3
x4
x5
x6
x7
x8
yA
x9
w10
x1
x2
x3
x4
x5
x6
x7
x8
x9
w20
x1
x2
x3
x4
x5
x6
x7
yA
x8
x9
w30
x1
yA
x2
x3
x4
yA
x5
x6
x7
x8
x9
w40
x1
x2
x3
x4
x5
x6
yA
x7
x8
yA
x9
w50
yA
yB
yC
yD
yE
yF
yG
yH
yI
x1
x2
yA
x3
x4
yA
x5
x6
x7
x8
x9
w60
x1
x2
x3
x4
x5
x6
x7
yA
yB
yC
yD
yE
yF
yG
yH
uE001
x2
x3
x4
x5
x6
x7
x8
yA
x9
yA
w10
x1
x2
x3
x4
x5
x6
yA
x7
yA
x8
x9
w20
yA
x1
x2
x3
x4
x5
x6
x7
x8
yA
x9
w30
x1
x2
x3
x4
yA
x6
x7
x8
vND SEGMENT
uF001
yA
x2
x3
x4
x5
x6
x7
x8
x9
w10
x1
x2
x3
yA
x4
x5
x6
x7
x8
x9
w20
x1
yA
x2
x3
x4
x5
x6
x7
x8
x9
w30
x1
yA
x2
x3
x4
x5
x6
x7
yA
x8
yA
x9
w40
x1
x2
x3
x4
x5
yA
x6
yA
x7
yA
x8
x9
w50
x1
yA
yB
yC
x2
x3
uG001
x2
x3
x4
x5
x6
yA
x7
yA
yB
x8
x9
w10
x1
yA
x2
x3
x4
x5
x6
x7
x8
x9
w20
yA
x1
x2
x3
x4
x5
x6
yA
x7
x8
x9
w30
x1
x2
x3
x4
x5
x6
yA
x7
yA
x8
x9
w40
x1
x2
x3
yA
x4
x5
yA
x6
x7
x8
x9
w50
x1
x2
x3
x4
uH001
x2
x3
x4
x5
x6
yA
x7
x8
vORIZONTAL JOINER
uI001
x2
x3
x4
x5
yA
x6
x7
x8
x9
yA
w10
yA
x1
yA
x2
x3
x4
x5
vNSERT AT BOTTOM END
blSTART
beTOP END
biSTART
uK001
x2
x3
x4
x5
x6
x7
x8
uL001
x2
yA
x3
x4
x5
x6
yA
x7
x8
uM001
yA
yB
x2
x3
yA
x4
x5
x6
x7
x8
x9
w10
yA
x1
x2
yA
yB
yC
yD
yE
yF
yG
yH
x3
x4
x5
yA
x6
yA
x7
yA
x8
x9
w20
x1
x2
yA
x3
x4
yA
x5
x6
x7
x8
yA
x9
w30
x1
yA
x2
x3
yA
yB
x4
x5
x6
x7
x8
x9
w40
yA
x1
x2
x3
x4
uN001
x2
x3
x4
x5
x6
x7
x8
x9
w10
x1
x2
x3
x4
x5
x6
x7
x8
yA
yB
x9
w20
x1
x2
x3
x4
x5
yA
x6
x7
x8
x9
w30
x1
x2
x3
yA
x4
yA
x5
yA
x6
x7
yA
x8
x9
w40
x1
x2
vL001
y2
y3
y4
y5
zA
y6
y7
y8
y9
x10
y1
y2
y3
y4
y5
y6
y7
zA
y8
y9
x20
vU001
y2
y3
y4
y5
y6
y7
y8
y9
x10
zA
y1
zA
y2
y3
y4
y5
y6
y7
y8
zA
y9
x20
y1
y2
zA
uO001
yA
x2
x3
x4
x5
yA
x6
yA
yB
yC
yD
yE
yF
x7
x8
x9
w10
yA
yB
yC
x1
x2
x3
x4
x5
x6
x7
x8
x9
yA
w20
yA
x1
x2
x3
x4
yA
x5
yA
x6
x7
x8
x9
yA
w30
yA
x1
x2
x3
yA
x4
x5
x6
yA
yB
yC
yD
x7
x8
x9
w40
x1
x2
x3
x4
x5
x6
x7
x8
x9
w50
yA
yB
x1
vVERLAY MIDDLE
uP001
yA
x2
x3
yA
x4
x5
x6
x7
x8
x9
w10
x1
uQ001
x2
x3
x4
x5
x6
x7
uR001
x2
yA
x3
yA
yB
x4
x5
x6
x7
x8
x9
w10
yA
x1
x2
x3
x4
x5
x6
yA
x7
x8
x9
w20
x1
x2
x3
x4
x5
x6
x7
x8
x9
uS001
x2
yA
x3
x4
x5
x6
yA
x7
x8
x9
w10
x1
x2
x3
x4
yA
yB
x5
x6
x7
yA
x8
x9
w20
x1
x2
x3
x4
x5
x6
yA
yB
x7
x8
x9
w30
x1
x2
x3
x4
x5
yA
x6
x7
x8
x9
w40
x1
x2
x3
x4
x5
x6
uT001
x2
x3
yA
x4
x5
x6
x7
yA
x8
yA
x9
yA
w10
x1
yA
x2
x3
x4
x5
x6
yA
x7
x8
x9
w20
x1
x2
x3
x4
x5
x6
x7
x8
x9
w30
x1
x2
yA
x3
yA
x4
x5
x6
uU001
x2
x3
x4
x5
x6
yA
yB
x7
x8
x9
w10
x1
x2
x3
x4
x5
x6
x7
x8
x9
w20
x1
x2
x3
yA
x4
x5
x6
x7
x8
x9
yA
w30
x1
x2
yA
x3
x4
x5
x6
x7
x8
x9
w40
x1
x2
uV001
yA
yB
yC
yD
yE
yF
yG
yH
yI
x2
yA
x3
x4
x5
x6
x7
yA
yB
x8
x9
w10
x1
yA
yB
yC
x2
yA
yB
x3
x4
x5
x6
x7
x8
x9
w20
yA
yB
yC
yD
yE
yF
yG
yH
yI
yJ
yK
yL
x1
x2
x3
yA
x4
x5
x6
x7
x8
yA
x9
yA
w30
yA
x1
yA
x2
x3
yA
x4
x5
x6
x7
yA
x8
x9
w40
yA
vERTICAL JOINER
uW001
x2
x3
yA
x4
x5
x6
x7
x8
x9
yA
w10
yA
x1
x2
x3
x4
yA
x5
x6
x7
yA
x8
yA
x9
w20
x1
x2
x3
x4
yA
x5
uX001
x2
x3
x4
yA
yB
x5
x6
yA
x7
x8
yA
uY001
yA
x2
x3
x4
x5
x6
x7
x8
uZ001
x2
yA
yB
yC
yD
x3
yA
yB
x4
yA
x5
yA
x6
x7
x8
x9
w10
x1
x2
x3
x4
x5
yA
yB
yC
yD
yE
yF
yG
yH
yI
x6
yA
yB
yC
yD
yE
yF
yG
yH
bIGHT PETALLED OUTLINED BLACK FLORETTE
hOINTED BLACK STAR
oPINWHEEL STAR
oRECTILINEAR BLACK STAR
gSPOKED ASTERISK
gTEARDROP-SPOKED PROPELLER ASTERISK
fH NOTE
bJECT SYMBOL
bLBASAN LETTER A
pBE
pCE
qHE
pDE
qHE
pE
qI
pFE
pGE
qHAMMA
rE
qJE
pHE
pI
pJE
pKE
qHE
pLE
qLE
pME
pNA
qDE
qE
qJE
pO
pPE
pQE
pRE
qRE
pSE
qHE
pTE
qHE
pU
pVE
pXE
pY
pZE
qHE
cECTRIC ARROW
jLIGHT BULB
jPLUG
jTORCH
iAL INTERSECTION
dMENT OF
k OPENING DOWNWARDS
tUPWARDS
lWITH DOT ABOVE
qLONG HORIZONTAL STROKE
qOVERBAR
qTWO HORIZONTAL STROKES
qUNDERBAR
qVERTICAL BAR AT END OF HORIZONTAL STROKE
dPHANT
dVATOR
cF
cYMAIC LETTER ALEPH
qYIN
pBETH
pDALETH
pGIMEL
pHE
rTH
pKAPH
pLAMEDH
pMEM
pNUN
pPE
pQOPH
pRESH
pSADHE
rMEKH
qHIN
pTAW
qETH
pWAW
pYODH
pZAYIN
jIGATURE ZAYIN-YODH
bM DASH
dQUAD
dSPACE
cOJI COMPONENT BALD
qCURLY HAIR
qRED HAIR
qWHITE HAIR
gMODIFIER FITZPATRICK TYPE-1-2
bg3
bg4
bg5
bg6
cPHASIS SYMBOL
dTY DOCUMENT
gNEST
hOTE
k PAD
nGE
gPAGE
kS
gSET
j WITH LEFT ARROW ABOVE
pOVERBAR
pRIGHT ARROW ABOVE
pSMALL CIRCLE ABOVE
bN DASH
dQUAD
dSPACE
cD OF GUARDED AREA
hLINE
hMEDIUM
hPROOF
kTECTED AREA
hSELECTED AREA
hTEXT
iRANSMISSION
t BLOCK
eWITH LEFTWARDS ARROW ABOVE
cQ
dUIRY
cTER SYMBOL
cVELOPE
i WITH DOWNWARDS ARROW ABOVE
oLIGHTNING
bOL
cM
cT
bPA
bQUAL AND PARALLEL TO
gTO BY DEFINITION
jOR GREATER-THAN
mLESS-THAN
mPRECEDES
mSUCCEEDS
fS COLON
hSIGN
l ABOVE LEFTWARDS ARROW
sPLUS SIGN
sRIGHTWARDS ARROW
sTILDE OPERATOR
nND SLANTED PARALLEL
bg WITH TILDE ABOVE
mWITH BUMPY ABOVE
rDOT BELOW
rINFINITY BELOW
rTWO DOTS ABOVE AND TWO DOTS BELOW
hWITH ASTERISK
dIANGULAR TO
eVALENT TO
lWITH FOUR DOTS ABOVE
bRASE TO THE LEFT
nRIGHT
cIS FORM ONE
kTWO
cROR-BARRED BLACK CIRCLE
tDIAMOND
tSQUARE
nWHITE CIRCLE
tDIAMOND
tSQUARE
bSA
cC
dAPE
cTIMATED SYMBOL
iS
bTB
cHIOPIC COLON
lMBINING GEMINATION AND VOWEL LENGTH MARK
beMARK
tVOWEL LENGTH MARK
mMA
jDIGIT EIGHT
pFIVE
qOUR
pNINE
pONE
pSEVEN
qIX
pTHREE
qWO
jFULL STOP
jNUMBER EIGHTY
qFIFTY
rORTY
qHUNDRED
qNINETY
qSEVENTY
rIXTY
qTEN
t THOUSAND
rHIRTY
rWENTY
jPARAGRAPH SEPARATOR
kREFACE COLON
jQUESTION MARK
jSECTION MARK
lMICOLON
kYLLABLE BA
uA
tBA
vA
uE
vE
uI
uO
uU
tE
uE
tI
tO
uA
tU
tWA
uE
vE
uI
sCA
uA
tCA
vA
uE
vE
uHA
wA
vE
wE
vHA
xA
wE
xE
wI
wO
wU
vI
vO
vU
uI
uO
uU
tE
uE
tHA
vA
uE
vE
uI
uO
vA
uU
uWA
tI
tO
uA
tU
tWA
sDA
uA
tDA
vA
uE
vE
uHAA
vE
wE
vI
vO
vU
uI
uO
vA
uU
uWA
tE
uE
tI
tO
uA
tU
tWA
tZAA
uE
vE
uI
uO
uU
sFA
uA
tE
uE
tI
tO
tU
tWA
uE
vE
uI
tYA
sGA
uA
tE
uE
tGA
vA
uE
vE
uI
uO
uU
uWA
wA
vE
wE
vI
tI
tLOTTAL A
bbA
baE
bbE
baI
baO
bbA
baU
baWA
tO
uA
tU
uRAGE BWEE
bbI
zFWEE
bbI
zGWE
bcE
bbI
zHHWA
zKWE
bcE
bbI
zMWEE
bbI
zPWEE
bbI
zQWE
bcE
bbI
tWA
vA
uE
vE
uI
tYA
vA
uE
vE
uI
uO
uU
sHA
uA
tE
uE
tHA
vA
uE
vE
uI
uO
uU
uWA
vE
wE
vI
uYA
wA
vE
wE
vI
vO
vU
tI
tO
uA
tU
sJA
uA
tE
uE
tI
tO
uA
tU
tWA
sKA
uA
tE
uE
tI
tO
uA
tU
tWA
vA
uE
vE
uI
tXA
vA
uE
vE
uI
uO
uU
uWA
wA
vE
wE
vI
tYA
vA
uE
vE
uI
uO
uU
sLA
uA
tE
uE
tI
tO
uA
tU
tWA
sMA
uA
tE
uE
tI
tO
uA
tU
tWA
uE
vE
uI
tYA
sNA
uA
tE
uE
tI
tO
uA
tU
tWA
tYA
vA
uE
vE
uI
uO
vA
uU
uWA
sPA
uA
tE
uE
tHA
vA
vRYNGEAL A
beA
bdE
beE
bdI
bdO
bdU
uE
vE
uI
uO
vA
uU
uWA
tI
tO
uA
tU
tWA
uE
vE
uI
sQA
uA
tE
uE
tHA
vA
uE
vE
uI
uO
uU
uWA
wA
vE
wE
vI
tI
tO
uA
tU
tWA
vA
uE
vE
uI
tYA
vA
uE
vE
uI
uO
uU
sRA
uA
tE
uE
tI
tO
uA
tU
tWA
tYA
sSA
uA
tE
uBATBEIT BWA
bcFWA
bcMWA
bcPWA
uE
tHA
vA
uE
vE
uI
uO
vA
uU
uWA
tI
tO
uA
tSA
vA
uE
vE
uI
uO
uU
tU
tWA
tZA
vA
uE
vE
uI
uO
uU
uWA
sTA
uA
tE
uE
tHA
vA
uE
vE
uI
uO
vA
uU
uWA
tI
tO
uA
tSA
vA
uE
vE
uI
uO
uU
uWA
tTHAA
vE
wE
vI
vO
vU
tU
tWA
tZA
vA
uE
vE
uI
uO
vA
uU
sVA
uA
tE
uE
tI
tO
tU
tWA
sWA
uA
tE
uE
tI
tO
uA
tU
sXA
uA
tE
uE
tI
tO
uA
tU
tWA
vA
uE
vE
uI
tYA
vA
uE
vE
uI
uO
uU
sYA
uA
tE
uE
tI
tO
uA
tU
sZA
uA
tE
uE
tHA
vA
uE
vE
uI
uO
uU
uWA
tI
tO
uA
tU
tWA
tZA
vA
uE
vE
uI
uO
uU
jTONAL MARK CHIRET
uDERET
z-HIDET
vIFAT
uHIDET
uKENAT
vURT
uRIKRIK
uSHORT RIKRIK
uYIZET
jWORDSPACE
cX
bULER CONSTANT
cRO SIGN
e-CURRENCY SIGN
ePEAN CASTLE
jPOST OFFICE
bVERGREEN TREE
bXCESS
dLAMATION MARK
mQUESTION MARK
cPRESSIONLESS FACE
cTENDED ARABIC-INDIC DIGIT EIGHT
bcFIVE
bdOUR
bcNINE
bcONE
bcSEVEN
bdIX
bcTHREE
bdWO
bcZERO
dRATERRESTRIAL ALIEN
eEMELY HEAVY FIVE SPOKED ASTERISK
qGREEK CROSS
qSALTIRE
rIX SPOKED ASTERISK
qWHITE CIRCLE
wSQUARE
bYE
dGLASSES
dS
aFACE HOLDING BACK TEARS
fMASSAGE
fPALM
fSAVOURING DELICIOUS FOOD
gCREAMING IN FEAR
fTHROWING A KISS
fWITH COLD SWEAT
mWBOY HAT
kDIAGONAL MOUTH
kFINGER COVERING CLOSED LIPS
kHEAD-BANDAGE
kLOOK OF TRIUMPH
kMEDICAL MASK
lONOCLE
kNO GOOD GESTURE
kOK GESTURE
lNE EYEBROW RAISED
lPEN EYES AND HAND OVER MOUTH
pMOUTH
u AND COLD SWEAT
vVOMITING
kPARTY HORN AND PARTY HAT
lEEKING EYE
lLEADING EYES
kROLLING EYES
kSTUCK-OUT TONGUE
ba AND TIGHTLY-CLOSED EYES
bfWINKING EYE
kTEARS OF JOY
lHERMOMETER
kUNEVEN EYES AND WAVY MOUTH
jOUT MOUTH
dSIMILE SIGN
dTORY
cIRY
cLAFEL
dLEN LEAF
eING DIAGONAL CROSSING NORTH EAST ARROW
baRISING DIAGONAL
rIN WHITE CIRCLE IN BLACK SQUARE
cMILY
cRSI SYMBOL
cTHER CHRISTMAS
cX ICON
eMACHINE
bEARFUL FACE
dTHER
cMALE SIGN
dININE ORDINAL INDICATOR
cNCER
cRRIS WHEEL
eY
bF
bIELD HOCKEY STICK AND BALL
cGURE DASH
hSPACE
cLE CABINET
fFOLDER
fSEPARATOR
dM FRAMES
fPROJECTOR
cNITE PART INTEGRAL
cRE
e ENGINE
gXTINGUISHER
eCRACKER
eWORK SPARKLER
iS
dST PLACE MEDAL
gQUARTER MOON
s SYMBOL
tWITH FACE
gSTRONG ISOLATE
cSH
e CAKE WITH SWIRL DESIGN
eEYE
eING POLE AND FISH
dTED HAND SIGN
cVE DOT MARK
jPUNCTUATION
bLAG IN HOLE
dMINGO
dT SHOE
eBREAD
eNESS
cEUR-DE-LIS
dXED BICEPS
cOPPY DISK
dRAL HEART
dWER
g PLAYING CARDS
iUNCTUATION MARK
cUSHED FACE
cY
dING DISC
hENVELOPE
hSAUCER
bOG
dGY
cLDER
cNDUE
cOT
ePRINTS
cR ALL
dCES
dK AND KNIFE
o WITH PLATE
eED PARAGRAPHOS
eING
dM FEED
dTUNE COOKIE
cUNTAIN
dR BALLOON-SPOKED ASTERISK
fCLUB-SPOKED ASTERISK
gORNER ARROWS CIRCLING ANTICLOCKWISE
fDOT MARK
jPUNCTUATION
fLEAF CLOVER
fPOINTED BLACK STAR
fTEARDROP-SPOKED ASTERISK
e-PER-EM SPACE
eTH ROOT
cX FACE
bRACTION NUMERATOR ONE
jSLASH
dME WITH AN X
lPICTURE
lTILES
cEEZING FACE
dNCH FRANC SIGN
jIES
cIED SHRIMP
cOG FACE
dNT-FACING BABY CHICK
gTILTED SHADOWED WHITE RIGHTWARDS ARROW
dWN
fING FACE WITH OPEN MOUTH
bS
cI
bUEL PUMP
cLL BLOCK
fMOON SYMBOL
kWITH FACE
fOUTER JOIN
fSTOP
eWIDTH AMPERSAND
lPOSTROPHE
lSTERISK
kBROKEN BAR
kCENT SIGN
lIRCUMFLEX ACCENT
lOLON
mMMA
oERCIAL AT
kDIGIT EIGHT
qFIVE
rOUR
qNINE
qONE
qSEVEN
rIX
qTHREE
rWO
qZERO
lOLLAR SIGN
kEQUALS SIGN
lXCLAMATION MARK
kFULL STOP
kGRAVE ACCENT
mEATER-THAN SIGN
kHYPHEN-MINUS
kLATIN CAPITAL LETTER A
bfB
bfC
bfD
bfE
bfF
bfG
bfH
bfI
bfJ
bfK
bfL
bfM
bfN
bfO
bfP
bfQ
bfR
bfS
bfT
bfU
bfV
bfW
bfX
bfY
bfZ
qSMALL LETTER A
bdB
bdC
bdD
bdE
bdF
bdG
bdH
bdI
bdJ
bdK
bdL
bdM
bdN
bdO
bdP
bdQ
bdR
bdS
bdT
bdU
bdV
bdW
bdX
bdY
bdZ
lEFT CURLY BRACKET
pPARENTHESIS
pSQUARE BRACKET
pWHITE PARENTHESIS
mSS-THAN SIGN
lOW LINE
kMACRON
kNOT SIGN
lUMBER SIGN
kPERCENT SIGN
lLUS SIGN
lOUND SIGN
kQUESTION MARK
mOTATION MARK
kREVERSE SOLIDUS
lIGHT CURLY BRACKET
qPARENTHESIS
qSQUARE BRACKET
qWHITE PARENTHESIS
kSEMICOLON
lOLIDUS
kTILDE
kVERTICAL LINE
kWON SIGN
kYEN SIGN
cNCTION APPLICATION
dERAL URN
cSE
bVS1
d2
d3
d4
aGAME DIE
cRLIC
bEAR
e WITH HANDLES
jOUT HUB
cM STONE
dINI
cNIE
cOMETRIC PROPORTION
jALLY EQUAL TO
rIVALENT TO
dRGIAN CAPITAL LETTER AEN
zN
yBAN
yCAN
zHAR
baIN
zIL
yDON
yEN
yGAN
zHAN
yHAE
baR
zE
zIE
zOE
yIN
yJHAN
zIL
yKAN
zHAR
yLAS
yMAN
yNAR
yON
yPAR
zHAR
yQAR
yRAE
ySAN
zHIN
yTAN
baR
yUN
yVIN
yWE
yXAN
yYN
yZEN
zHAR
jLETTER AEN
rIN
rN
qBAN
qCAN
rHAR
sIN
rIL
qDON
qELIFI
rN
qFI
qGAN
rHAN
qHAE
sR
tD SIGN
rE
rIE
rOE
qIN
qJHAN
rIL
qKAN
rHAR
qLABIAL SIGN
sS
qMAN
qNAR
qON
qPAR
rHAR
qQAR
qRAE
qSAN
rHIN
qTAN
sR
rURNED GAN
qUN
qVIN
qWE
qXAN
qYN
qZEN
rHAR
jMTAVRULI CAPITAL LETTER AEN
biIN
biN
bhBAN
bhCAN
biHAR
bjIN
biIL
bhDON
bhELIFI
biN
bhFI
bhGAN
biHAN
bhHAE
bjR
bkD SIGN
biE
biIE
biOE
bhIN
bhJHAN
biIL
bhKAN
biHAR
bhLABIAL SIGN
bjS
bhMAN
bhNAR
bhON
bhPAR
biHAR
bhQAR
bhRAE
bhSAN
biHIN
bhTAN
bjR
biURNED GAN
bhUN
bhVIN
bhWE
bhXAN
bhYN
bhZEN
biHAR
jPARAGRAPH SEPARATOR
jSMALL LETTER AEN
xN
wBAN
wCAN
xHAR
yIN
xIL
wDON
wEN
wGAN
xHAN
wHAE
yR
xE
xIE
xOE
wIN
wJHAN
xIL
wKAN
xHAR
wLAS
wMAN
wNAR
wON
wPAR
xHAR
wQAR
wRAE
wSAN
xHIN
wTAN
yR
wUN
wVIN
wWE
wXAN
wYN
wZEN
xHAR
cRMAN PENNY SIGN
cTA MARK
bHOST
bIMEL SYMBOL
cRAFFE FACE
dL
eS SYMBOL
bLAGOLITIC CAPITAL LETTER AZU
baBIG YUS
bbUKY
baCAUDATE CHRIVI
bbHRIVI
baDJERVI
bbOBRO
bbZELO
baFITA
bbRITU
baGLAGOLI
baHERU
baI
bbNITIAL IZHE
bbOTATED BIG YUS
biSMALL YUS
bbZHE
bdITSA
baKAKO
baLATINATE MYSLITE
bbJUDIJE
baMYSLITE
baNASHI
baONU
bbTU
baPE
bbOKOJI
baRITSI
baSHA
bcTA
bePIC
bbLOVO
bbMALL YUS
bj WITH TAIL
bbPIDERY HA
baTROKUTASTI A
bbSI
bbVRIDO
baUKU
baVEDE
baYATI
bbERI
bdU
bcSTU
bbO
bbU
baZEMLJA
bbHIVETE
lSMALL LETTER AZU
yBIG YUS
zUKY
yCAUDATE CHRIVI
zHRIVI
yDJERVI
zOBRO
zZELO
yFITA
zRITU
yGLAGOLI
yHERU
yI
zNITIAL IZHE
zOTATED BIG YUS
bgSMALL YUS
zZHE
bbITSA
yKAKO
yLATINATE MYSLITE
zJUDIJE
yMYSLITE
yNASHI
yONU
zTU
yPE
zOKOJI
yRITSI
ySHA
baTA
bcPIC
zLOVO
zMALL YUS
bh WITH TAIL
zPIDERY HA
yTROKUTASTI A
zSI
zVRIDO
yUKU
yVEDE
yYATI
zERI
bbU
baSTU
zO
zU
yZEMLJA
zHIVETE
dSS OF MILK
cEICH STARK
cOBE WITH MERIDIANS
dVES
dWING STAR
bOAL NET
dT
cGGLES
cLFER
cRILLA
cTHIC LETTER AHSA
pIHVUS
oBAIRKAN
oDAGS
oEIS
oFAIHU
oGIBA
oHAGL
pWAIR
oIGGWS
pUJA
oJER
oKUSMA
oLAGUS
oMANNA
oNAUTHS
pINE HUNDRED
sTY
oOTHAL
oPAIRTHRA
oQAIRTHRA
oRAIDA
oSAUIL
oTEIWS
pHIUTH
oURUS
oWINJA
bRADUATION CAP
dNTHA AU LENGTH MARK
iLETTER A
qA
qI
qU
pBA
qHA
pCA
qHA
pDA
qDA
rHA
qHA
pEE
pGA
qHA
pHA
pI
qI
pJA
qHA
pKA
qHA
pLA
qLA
pMA
pNA
qGA
qNA
qYA
pOO
pPA
qHA
pRA
pSA
qHA
qSA
pTA
qHA
qTA
rHA
pU
qU
pVA
qEDIC ANUSVARA
vDOUBLE ANUSVARA
qOCALIC L
yL
xR
yR
pYA
iOM
iSIGN ANUSVARA
oVAGRAHA
nCANDRABINDU
oOMBINING ANUSVARA ABOVE
nNUKTA
nPLUTA
nVIRAMA
pSARGA
iVOWEL SIGN AA
uI
uU
tEE
tI
uI
tOO
tU
uU
tVOCALIC L
bcL
bbR
bcR
dPES
dVE ACCENT
cEATER-THAN ABOVE DOUBLE-LINE EQUAL ABOVE LESS-THAN
tLESS-THAN ABOVE DOUBLE-LINE EQUAL
tRIGHTWARDS ARROW
tSIMILAR ABOVE LESS-THAN
bbOR EQUAL
uLANTED EQUAL ABOVE LESS-THAN ABOVE SLANTED EQUAL
oND NOT APPROXIMATE
rSINGLE-LINE NOT EQUAL TO
nBESIDE LESS-THAN
oUT NOT EQUAL TO
yIVALENT TO
nCLOSED BY CURVE
bc ABOVE SLANTED EQUAL
nEQUAL TO OR LESS-THAN
nOR APPROXIMATE
qEQUAL TO
tIVALENT TO
qLESS-THAN
qSLANTED EQUAL TO
bg WITH DOT ABOVE
bv LEFT
bqINSIDE
oVER EQUAL TO
rLAPPING LESS-THAN
nSIGN
nWITH CIRCLE INSIDE
sDOT
sQUESTION MARK ABOVE
dEK ACROPHONIC ATTIC FIFTY
bc STATERS
bdTALENTS
beHOUSAND
bl STATERS
zVE
bb HUNDRED
bj STATERS
bkTALENTS
bcSTATERS
bcTALENTS
bdHOUSAND
bk TALENTS
xONE DRACHMA
bbHALF
bcUNDRED STATERS
bjTALENTS
bbQUARTER
bbTHOUSAND STATERS
bkTALENTS
xTEN MNAS
bbSTATERS
bbTALENTS
bcHOUSAND STATERS
rCARYSTIAN FIVE HUNDRED
sYRENAIC TWO DRACHMAS
rDELPHIC FIVE MNAS
rEPIDAUREAN FIVE HUNDRED
bcTWO
bf DRACHMAS
rHERAEUM ONE PLETHRON
uMIONIAN FIFTY
bcONE
bcTEN
rMESSENIAN TEN
rNAXIAN FIVE HUNDRED
rSTRATIAN FIFTY MNAS
rTHESPIAN FIFTY
bcVE HUNDRED
bfTHOUSAND
baONE
bd HUNDRED
beTHOUSAND
baTEN
bbHIRTY
bcREE HUNDRED
bbWO
sROEZENIAN FIFTY
bh ALTERNATE FORM
beVE
bg HUNDRED
bcTEN
bf ALTERNATE FORM
hNO TELEIA
hROURA SIGN
iTABE SIGN
gBETA SYMBOL
gCAPITAL DOTTED LUNATE SIGMA SYMBOL
oKAI SYMBOL
oLETTER ALPHA
ba WITH DASIA
bl AND OXIA
bu AND PROSGEGRAMMENI
bqPERISPOMENI
cb AND PROSGEGRAMMENI
brROSGEGRAMMENI
bqVARIA
bv AND PROSGEGRAMMENI
bgMACRON
bgOXIA
bgPROSGEGRAMMENI
bhSILI
bl AND OXIA
bu AND PROSGEGRAMMENI
bqPERISPOMENI
cb AND PROSGEGRAMMENI
brROSGEGRAMMENI
bqVARIA
bv AND PROSGEGRAMMENI
bgTONOS
bgVARIA
bhRACHY
wRCHAIC SAMPI
vBETA
vCHI
vDELTA
vEPSILON
bc WITH DASIA
bn AND OXIA
bsVARIA
biOXIA
biPSILI
bn AND OXIA
bsVARIA
biTONOS
biVARIA
wTA
y WITH DASIA
bj AND OXIA
bs AND PROSGEGRAMMENI
boPERISPOMENI
bz AND PROSGEGRAMMENI
bpROSGEGRAMMENI
boVARIA
bt AND PROSGEGRAMMENI
beOXIA
bePROSGEGRAMMENI
bfSILI
bj AND OXIA
bs AND PROSGEGRAMMENI
boPERISPOMENI
bz AND PROSGEGRAMMENI
bpROSGEGRAMMENI
boVARIA
bt AND PROSGEGRAMMENI
beTONOS
beVARIA
vGAMMA
vHETA
vIOTA
z WITH DASIA
bk AND OXIA
bpPERISPOMENI
bpVARIA
bgIALYTIKA
bfMACRON
bfOXIA
bfPSILI
bk AND OXIA
bpPERISPOMENI
bpVARIA
bfTONOS
bfVARIA
bgRACHY
vKAPPA
vLAMDA
vMU
vNU
vOMEGA
ba WITH DASIA
bl AND OXIA
bu AND PROSGEGRAMMENI
bqPERISPOMENI
cb AND PROSGEGRAMMENI
brROSGEGRAMMENI
bqVARIA
bv AND PROSGEGRAMMENI
bgOXIA
bgPROSGEGRAMMENI
bhSILI
bl AND OXIA
bu AND PROSGEGRAMMENI
bqPERISPOMENI
cb AND PROSGEGRAMMENI
brROSGEGRAMMENI
bqVARIA
bv AND PROSGEGRAMMENI
bgTONOS
bgVARIA
xICRON
bc WITH DASIA
bn AND OXIA
bsVARIA
biOXIA
biPSILI
bn AND OXIA
bsVARIA
biTONOS
biVARIA
vPAMPHYLIAN DIGAMMA
wHI
wI
wSI
vRHO
y WITH DASIA
vSAN
wHO
wIGMA
vTAU
wHETA
vUPSILON
bc WITH DASIA
bn AND OXIA
bsPERISPOMENI
bsVARIA
bjIALYTIKA
biMACRON
biOXIA
biTONOS
biVARIA
bjRACHY
vXI
vYOT
vZETA
pUNATE SIGMA SYMBOL
oREVERSED DOTTED LUNATE SIGMA SYMBOL
xLUNATE SIGMA SYMBOL
oTHETA SYMBOL
gDASIA
l AND OXIA
qPERISPOMENI
qVARIA
hIALYTIKA AND OXIA
uPERISPOMENI
uVARIA
qTONOS
hRACHMA SIGN
gFIVE OBOLS SIGN
hOUR OBOLS SIGN
gGRAMMA SIGN
gINDICTION SIGN
iSTRUMENTAL NOTATION SYMBOL-1
bk1
bk2
bk3
bk4
bk7
bk8
bk9
bj2
bk3
bk4
bk5
bk6
bk7
bk9
bj30
bk2
bk6
bk7
bk8
bk9
bj4
bk0
bk2
bk3
bk5
bk7
bk8
bk9
bj5
bk0
bk1
bk2
bk3
bk4
bj7
bj8
gKAI SYMBOL
iPPA SYMBOL
hORONIS
hYATHOS BASE SIGN
gLETTER ARCHAIC KOPPA
nDIGAMMA
nKOPPA
nSAMPI
oMALL CAPITAL GAMMA
bbLAMDA
bbOMEGA
bbPI
bcSI
bbRHO
oTIGMA
nYOT
hITRA SIGN
hOWER NUMERAL SIGN
hUNATE EPSILON SYMBOL
nSIGMA SYMBOL
gMETRETES SIGN
hUSICAL LEIMMA
gNUMERAL SIGN
gOBOL SIGN
hNE HALF SIGN
t ALTERNATE FORM
kQUARTER SIGN
hUNKIA SIGN
hXIA
gPERISPOMENI
hHI SYMBOL
hI SYMBOL
hROSGEGRAMMENI
hSILI
l AND OXIA
qPERISPOMENI
qVARIA
gQUESTION MARK
gREVERSED LUNATE EPSILON SYMBOL
hHO SYMBOL
kWITH STROKE SYMBOL
gSINUSOID SIGN
hMALL DOTTED LUNATE SIGMA SYMBOL
mLETTER ALPHA
y WITH DASIA
bj AND OXIA
bs AND YPOGEGRAMMENI
boPERISPOMENI
bz AND YPOGEGRAMMENI
boVARIA
bt AND YPOGEGRAMMENI
boYPOGEGRAMMENI
beMACRON
beOXIA
bi AND YPOGEGRAMMENI
bePERISPOMENI
bp AND YPOGEGRAMMENI
bfSILI
bj AND OXIA
bs AND YPOGEGRAMMENI
boPERISPOMENI
bz AND YPOGEGRAMMENI
boVARIA
bt AND YPOGEGRAMMENI
boYPOGEGRAMMENI
beTONOS
beVARIA
bj AND YPOGEGRAMMENI
bfRACHY
beYPOGEGRAMMENI
uRCHAIC KOPPA
bbSAMPI
tBETA
tCHI
tDELTA
uIGAMMA
tEPSILON
ba WITH DASIA
bl AND OXIA
bqVARIA
bgOXIA
bgPSILI
bl AND OXIA
bqVARIA
bgTONOS
bgVARIA
uTA
w WITH DASIA
bh AND OXIA
bq AND YPOGEGRAMMENI
bmPERISPOMENI
bx AND YPOGEGRAMMENI
bmVARIA
br AND YPOGEGRAMMENI
bmYPOGEGRAMMENI
bcOXIA
bg AND YPOGEGRAMMENI
bcPERISPOMENI
bn AND YPOGEGRAMMENI
bdSILI
bh AND OXIA
bq AND YPOGEGRAMMENI
bmPERISPOMENI
bx AND YPOGEGRAMMENI
bmVARIA
br AND YPOGEGRAMMENI
bmYPOGEGRAMMENI
bcTONOS
bcVARIA
bh AND YPOGEGRAMMENI
bcYPOGEGRAMMENI
tFINAL SIGMA
tGAMMA
tHETA
tIOTA
x WITH DASIA
bi AND OXIA
bnPERISPOMENI
bnVARIA
beIALYTIKA
bm AND OXIA
brPERISPOMENI
brTONOS
brVARIA
bdMACRON
bdOXIA
bdPERISPOMENI
beSILI
bi AND OXIA
bnPERISPOMENI
bnVARIA
bdTONOS
bdVARIA
beRACHY
tKAPPA
uOPPA
tLAMDA
tMU
tNU
tOMEGA
y WITH DASIA
bj AND OXIA
bs AND YPOGEGRAMMENI
boPERISPOMENI
bz AND YPOGEGRAMMENI
boVARIA
bt AND YPOGEGRAMMENI
boYPOGEGRAMMENI
beOXIA
bi AND YPOGEGRAMMENI
bePERISPOMENI
bp AND YPOGEGRAMMENI
bfSILI
bj AND OXIA
bs AND YPOGEGRAMMENI
boPERISPOMENI
bz AND YPOGEGRAMMENI
boVARIA
bt AND YPOGEGRAMMENI
boYPOGEGRAMMENI
beTONOS
beVARIA
bj AND YPOGEGRAMMENI
beYPOGEGRAMMENI
vICRON
ba WITH DASIA
bl AND OXIA
bqVARIA
bgOXIA
bgPSILI
bl AND OXIA
bqVARIA
bgTONOS
bgVARIA
tPAMPHYLIAN DIGAMMA
uHI
uI
uSI
tRHO
w WITH DASIA
bcPSILI
tSAMPI
vN
uHO
uIGMA
uTIGMA
tTAU
uHETA
tUPSILON
ba WITH DASIA
bl AND OXIA
bqPERISPOMENI
bqVARIA
bhIALYTIKA
bp AND OXIA
buPERISPOMENI
buTONOS
buVARIA
bgMACRON
bgOXIA
bgPERISPOMENI
bhSILI
bl AND OXIA
bqPERISPOMENI
bqVARIA
bgTONOS
bgVARIA
bhRACHY
tXI
tZETA
mREVERSED DOTTED LUNATE SIGMA SYMBOL
vLUNATE SIGMA SYMBOL
hUBSCRIPT SMALL LETTER BETA
bdCHI
bdGAMMA
bdPHI
bdRHO
hYMBOL TAU RHO
gTALENT SIGN
hHETA SYMBOL
iREE OBOLS SIGN
mQUARTERS SIGN
hONOS
hRYBLION BASE SIGN
hWO OBOLS SIGN
kTHIRDS SIGN
gUPSILON WITH ACUTE AND HOOK SYMBOL
tDIAERESIS AND HOOK SYMBOL
tHOOK SYMBOL
gVARIA
hOCAL NOTATION SYMBOL-1
bd0
bd1
bd2
bd3
bd4
bd5
bd6
bd7
bd8
bd9
bc2
bd0
bd1
bd2
bd3
bd4
bc3
bc4
bc5
bd0
bd1
bd2
bd3
bd4
bc6
bc7
bc8
bc9
gXESTES SIGN
gYEAR SIGN
hPOGEGRAMMENI
gZERO SIGN
eN APPLE
gBOOK
gHEART
gSALAD
cIMACING FACE
dNNING CAT FACE WITH SMILING EYES
jFACE
n WITH ONE LARGE AND ONE SMALL EYE
tSMILING EYES
uTAR EYES
cOUP MARK
gSEPARATOR
dWING HEART
bS
bUARANI SIGN
eDSMAN
cIDE DOG
dTAR
cJARATI ABBREVIATION SIGN
jDIGIT EIGHT
pFIVE
qOUR
pNINE
pONE
pSEVEN
qIX
pTHREE
qWO
pZERO
jLETTER A
rA
rI
rU
qBA
rHA
qCA
rHA
qDA
rDA
sHA
rHA
qE
qGA
rHA
qHA
qI
rI
qJA
rHA
qKA
rHA
qLA
rLA
qMA
qNA
rGA
rNA
rYA
qO
qPA
rHA
qRA
qSA
rHA
rSA
qTA
rHA
rTA
sHA
qU
rU
qVA
rOCALIC L
zL
yR
zR
qYA
qZHA
jOM
jRUPEE SIGN
jSIGN ANUSVARA
pVAGRAHA
oCANDRABINDU
pIRCLE NUKTA ABOVE
oMADDAH
oNUKTA
oSHADDA
pUKUN
oTHREE-DOT NUKTA ABOVE
pWO-CIRCLE NUKTA ABOVE
oVIRAMA
qSARGA
jVOWEL CANDRA E
wO
pSIGN AA
vI
vU
uCANDRA E
bbO
uE
uI
vI
uO
uU
vU
uVOCALIC L
bdL
bcR
bdR
cNJALA GONDI DIGIT EIGHT
uFIVE
vOUR
uNINE
uONE
uSEVEN
vIX
uTHREE
vWO
uZERO
oLETTER A
wA
wI
wU
vBA
wHA
vCA
wHA
vDA
wDA
xHA
wHA
vEE
vGA
wHA
vHA
vI
wI
vJA
wHA
vKA
wHA
vLA
wLA
vMA
vNA
wGA
vOO
vPA
wHA
vRA
vSA
vTA
wHA
wTA
xHA
vU
wU
vVA
vYA
oOM
oSIGN ANUSVARA
tVISARGA
oVIRAMA
pOWEL SIGN AA
baI
baU
zEE
zI
baI
zOO
zU
baU
cRMUKHI ABBREVIATION SIGN
kDDAK
jDIGIT EIGHT
pFIVE
qOUR
pNINE
pONE
pSEVEN
qIX
pTHREE
qWO
pZERO
jEK ONKAR
jIRI
jLETTER A
rA
rI
rU
qBA
rHA
qCA
rHA
qDA
rDA
sHA
rHA
qEE
qFA
qGA
rHA
sHA
qHA
qI
rI
qJA
rHA
qKA
rHA
sHA
qLA
rLA
qMA
qNA
rGA
rNA
rYA
qOO
qPA
rHA
qRA
rRA
qSA
rHA
qTA
rHA
rTA
sHA
qU
rU
qVA
qYA
qZA
jSIGN ADAK BINDI
oBINDI
oNUKTA
oUDAAT
oVIRAMA
qSARGA
oYAKASH
jTIPPI
jURA
jVOWEL SIGN AA
vI
vU
uEE
uI
vI
uOO
uU
vU
aHADES
cIR SPACE
eCUT
cLFWIDTH BLACK SQUARE
kDOWNWARDS ARROW
kFORMS LIGHT VERTICAL
kHANGUL FILLER
rLETTER A
zE
yCHIEUCH
zIEUC
yE
zO
zU
yHIEUH
yI
zEUNG
yKHIEUKH
zIYEOK
be-SIOS
yMIEUM
yNIEUN
bd-CIEUC
beHIEUH
yO
zE
yPHIEUPH
zIEUP
bd-SIOS
yRIEUL
bd-HIEUH
beKIYEOK
beMIEUM
bePHIEUPH
bfIEUP
beSIOS
beTHIEUTH
ySIOS
zSANGCIEUC
bdKIYEOK
bdPIEUP
bdSIOS
bdTIKEUT
yTHIEUTH
zIKEUT
yU
yWA
baE
zE
baO
zI
yYA
baE
zE
baO
zI
zO
zU
kIDEOGRAPHIC COMMA
wFULL STOP
kKATAKANA LETTER A
baE
baHA
bbE
bbI
bbO
bbU
baI
baKA
bbE
bbI
bbO
bbU
baMA
bbE
bbI
bbO
bbU
baN
bbA
bbE
bbI
bbO
bbU
baO
baRA
bbE
bbI
bbO
bbU
baSA
bbE
bbI
bbMALL A
bgE
bgI
bgO
bgTU
bgU
bgYA
bhO
bhU
bbO
bbU
baTA
bbE
bbI
bbO
bbU
baU
baWA
bbO
baYA
bbO
bbU
tMIDDLE DOT
tSEMI-VOICED SOUND MARK
tVOICED SOUND MARK
s-HIRAGANA PROLONGED SOUND MARK
kLEFT CORNER BRACKET
oWARDS ARROW
kRIGHT CORNER BRACKET
pWARDS ARROW
kUPWARDS ARROW
kWHITE CIRCLE
cMBURGER
dMER
g AND PICK
lSICKLE
lWRENCH
dSA
eTER FACE
cND WITH INDEX AND MIDDLE FINGERS CROSSED
qFINGER AND THUMB CROSSED
eBAG
gLL
eSHAKE
dGUL CHOSEONG CEONGCHIEUMCHIEUCH
bcIEUC
bbSIOS
bcSANGCIEUC
bgSIOS
rHIEUCH
x-HIEUH
yKHIEUKH
tTUEUMCHIEUCH
zIEUC
ySIOS
zSANGCIEUC
bdSIOS
rIEUC
v-IEUNG
qFILLER
qHIEUH
v-SIOS
qIEUNG
v-CHIEUCH
xIEUC
wHIEUH
wKIYEOK
wMIEUM
wPANSIOS
xHIEUPH
xIEUP
wRIEUL
wSIOS
wTHIEUTH
xIKEUT
qKAPYEOUNMIEUM
yPHIEUPH
zIEUP
yRIEUL
ySSANGPIEUP
rHIEUKH
rIYEOK
w-TIKEUT
qMIEUM
v-KIYEOK
wPIEUP
wSIOS
wTIKEUT
qNIEUN
v-CIEUC
wHIEUH
wKIYEOK
wPIEUP
wSIOS
wTIKEUT
qPANSIOS
rHIEUPH
x-HIEUH
yPIEUP
rIEUP
v-CHIEUCH
xIEUC
wHIEUH
wKHIEUKH
xIYEOK
wNIEUN
wPHIEUPH
wSIOS
ba-CIEUC
bbKIYEOK
bbPIEUP
bbTHIEUTH
bcIKEUT
xSANGSIOS
wTHIEUTH
xIKEUT
qRIEUL
v-CIEUC
wHIEUH
wKAPYEOUNPIEUP
xHIEUKH
xIYEOK
wMIEUM
wNIEUN
wPIEUP
wSIOS
xSANGKIYEOK
bbPIEUP
bbTIKEUT
wTIKEUT
qSIOS
u-CHIEUCH
wIEUC
vHIEUH
vIEUNG
vKHIEUKH
wIYEOK
vMIEUM
vNIEUN
vPHIEUPH
wIEUP
ba-KIYEOK
vRIEUL
vSSANGSIOS
vTHIEUTH
wIKEUT
rSANGCIEUC
ba-HIEUH
vHIEUH
vIEUNG
vKIYEOK
vNIEUN
vPIEUP
vRIEUL
vSIOS
z-PIEUP
vTHIEUTH
wIKEUT
vYEORINHIEUH
qTHIEUTH
rIKEUT
w-CIEUC
xKIYEOK
xMIEUM
xPIEUP
xRIEUL
xSIOS
qYEORINHIEUH
sSIEUNG
hDOUBLE DOT TONE MARK
hFILLER
hJONGSEONG CHIEUCH
sIEUC
w-PIEUP
xSSANGPIEUP
rHIEUH
w-MIEUM
xNIEUN
xPIEUP
xRIEUL
rIEUNG
w-KHIEUKH
yIYEOK
xSSANGKIYEOK
rKAPYEOUNMIEUM
zPHIEUPH
baIEUP
zRIEUL
sHIEUKH
sIYEOK
x-CHIEUCH
yHIEUH
yKHIEUKH
yNIEUN
yPIEUP
yRIEUL
ySIOS
bc-KIYEOK
rMIEUM
w-CHIEUCH
yIEUC
xHIEUH
xKIYEOK
xNIEUN
xPANSIOS
yIEUP
bc-SIOS
xRIEUL
xSIOS
ySANGNIEUN
bcSIOS
rNIEUN
w-CHIEUCH
yIEUC
xHIEUH
xKIYEOK
xPANSIOS
xRIEUL
xSIOS
xTHIEUTH
yIKEUT
rPANSIOS
y-KAPYEOUNPIEUP
zPIEUP
sHIEUPH
y-PIEUP
zSIOS
zTHIEUTH
sIEUP
w-CHIEUCH
yIEUC
xHIEUH
xMIEUM
xPHIEUPH
xRIEUL
bc-PHIEUPH
xSIOS
bb-TIKEUT
xTIKEUT
rRIEUL
w-HIEUH
xKAPYEOUNPIEUP
yHIEUKH
yIYEOK
bd-HIEUH
beSIOS
xMIEUM
bc-HIEUH
bdKIYEOK
bdSIOS
xNIEUN
xPANSIOS
yHIEUPH
yIEUP
bc-HIEUH
bdPHIEUPH
bdSIOS
bdTIKEUT
xSIOS
ySANGKIYEOK
bcSIOS
xTHIEUTH
yIKEUT
bd-HIEUH
xYEORINHIEUH
bi-HIEUH
zSIEUNG
rSIOS
v-CHIEUCH
xIEUC
wHIEUH
wKAPYEOUNPIEUP
xIYEOK
wMIEUM
wPANSIOS
xIEUP
wRIEUL
wTHIEUTH
xIKEUT
sSANGCIEUC
wIEUNG
wKIYEOK
wMIEUM
wNIEUN
wPIEUP
wRIEUL
bb-KHIEUKH
wSIOS
ba-KIYEOK
bbTIKEUT
wTIKEUT
bc-PIEUP
wYESIEUNG
rTHIEUTH
sIKEUT
x-CHIEUCH
zIEUC
yKIYEOK
yPIEUP
yRIEUL
ySIOS
bc-KIYEOK
yTHIEUTH
rYEORINHIEUH
tSIEUNG
z-HIEUH
baKHIEUKH
bbIYEOK
baMIEUM
baPANSIOS
baSIOS
bbSANGKIYEOK
iUNGSEONG A
s-EU
tO
tU
sE
sRAEA
w-A
xE
yO
xI
xU
rE
sO
t-EU
uO
uU
sU
t-A
uE
vO
vU
uO
uU
rFILLER
rI
s-A
uRAEA
tEU
tI
tO
u-I
tU
tYA
v-O
vE
uE
vO
uO
uU
rO
s-E
uO
tO
u-I
tU
tYA
vE
uE
vO
sE
rSSANGARAEA
rU
s-A
uE
tEO-EU
tI-I
tU
tYE
vO
rWA
tE
sE
tO
sI
rYA
t-O
uU
uYO
tE
sE
tO
u-O
vU
vYA
sI
t-U
sO
t-A
vE
uEO
uI
uO
uYA
wE
vEO
sU
t-A
vE
uE
vO
uI
uO
uU
uYE
wO
hLETTER A
pE
pRAEA
tE
oCHIEUCH
pIEUC
oE
pO
pU
oHIEUH
oI
pEUNG
oKAPYEOUNMIEUM
wPHIEUPH
xIEUP
wSSANGPIEUP
pHIEUKH
pIYEOK
u-SIOS
oMIEUM
t-PANSIOS
vIEUP
uSIOS
oNIEUN
t-CIEUC
uHIEUH
uPANSIOS
uSIOS
uTIKEUT
oO
pE
oPANSIOS
pHIEUPH
pIEUP
t-CIEUC
uKIYEOK
uSIOS
y-KIYEOK
zTIKEUT
uTHIEUTH
vIKEUT
oRIEUL
t-HIEUH
uKIYEOK
ba-SIOS
uMIEUM
uPANSIOS
vHIEUPH
vIEUP
z-SIOS
uSIOS
uTHIEUTH
vIKEUT
uYEORINHIEUH
oSIOS
s-CIEUC
tKIYEOK
tNIEUN
tPIEUP
tTIKEUT
pSANGCIEUC
tHIEUH
tIEUNG
tKIYEOK
tNIEUN
tPIEUP
tSIOS
tTIKEUT
oTHIEUTH
pIKEUT
oU
oWA
qE
pE
qO
pI
oYA
qE
pE
qO
rRINHIEUH
qSIEUNG
w-PANSIOS
xSIOS
pI
pO
q-I
rYA
tE
pU
q-I
rYE
tO
hSINGLE DOT TONE MARK
eZHOU NUMERAL EIGHT
rFIVE
sOUR
rNINE
rONE
rSEVEN
sIX
rTEN
sHIRTY
tREE
sWENTY
tO
dIFI ROHINGYA DIGIT EIGHT
wFIVE
xOUR
wNINE
wONE
wSEVEN
xIX
wTHREE
xWO
wZERO
qLETTER A
xBA
xCA
xDA
yDA
xFA
xGA
xHA
xJA
xKA
yHA
yINNA WA
bdYA
xLA
xMA
xNA
yGA
yYA
xPA
xRA
yRA
xSA
yHA
xTA
yTA
xVA
xWA
xYA
xZA
qMARK NA KHONNA
vSAKIN
qSIGN HARBAHAY
vTAHALA
xNA
xSSI
qVOWEL A
wE
wI
wO
wU
dUNOO LETTER A
pBA
pDA
pGA
pHA
pI
pKA
pLA
pMA
pNA
qGA
pPA
pRA
pSA
pTA
pU
pWA
pYA
iSIGN PAMUDPOD
iVOWEL SIGN I
tU
cPPY PERSON RAISING ONE HAND
cRD DISK
cTCHING CHICK
dRAN LETTER ALEPH
pYN
oBETH
oDALETH-RESH
oGIMEL
oHE
qTH
oKAPH
oLAMEDH
oMEM
oNUN
oPE
oQOPH
oSADHE
qMEKH
pHIN
oTAW
pETH
oWAW
oYODH
oZAYN
hNUMBER FIVE
oONE
r HUNDRED
oTEN
pWENTY
bEADPHONE
eSTONE
j GRAVEYARD SYMBOL
dR-NO-EVIL MONKEY
eT DECORATION
gHANDS
gWITH ARROW
lRIBBON
lTIP ON THE LEFT
dVY AMPERSAND ORNAMENT
hRROW SHAFT WIDTH ONE
bb HALF
bcTHIRD
yTWO THIRDS
hSTERISK
gBALLOT X
hLACK CURVED DOWNWARDS AND RIGHTWARDS ARROW
tUPWARDS AND RIGHTWARDS ARROW
mHEART
l-FEATHERED NORTH EAST ARROW
wRIGHTWARDS ARROW
wSOUTH EAST ARROW
gCHECK MARK
jVRON SNOWFLAKE
hIRCLE
m WITH CIRCLE INSIDE
sSTROKE AND TWO DOTS ABOVE
mD SALTIRE
hONCAVE-POINTED BLACK RIGHTWARDS ARROW
gDASHED TRIANGLE-HEADED RIGHTWARDS ARROW
hIVISION SIGN
hOLLAR SIGN
iUBLE COMMA QUOTATION MARK ORNAMENT
nTURNED COMMA QUOTATION MARK ORNAMENT
iWNWARDS ARROW WITH EQUILATERAL ARROWHEAD
bbLARGE EQUILATERAL ARROWHEAD
gEIGHT POINTED BLACK STAR
uPINWHEEL STAR
uRECTILINEAR BLACK STAR
mSPOKED ASTERISK
mTEARDROP-SPOKED PROPELLER ASTERISK
hQUALS SIGN
hXCLAMATION MARK ORNAMENT
xSYMBOL
gFIVE POINTED BLACK STAR
lSPOKED ASTERISK
hOUR BALLOON-SPOKED ASTERISK
gGREEK CROSS
gHEART EXCLAMATION MARK ORNAMENT
hORIZONTAL FILL
gINTERROBANG ORNAMENT
gLARGE CIRCLE
iTIN CROSS
hEFT-POINTING ANGLE BRACKET ORNAMENT
baQUOTATION MARK ORNAMENT
kWARDS ARROW WITH EQUILATERAL ARROWHEAD
bbLARGE EQUILATERAL ARROWHEAD
hIGATURE OPEN ET ORNAMENT
hOW DOUBLE COMMA QUOTATION MARK ORNAMENT
kSINGLE COMMA QUOTATION MARK ORNAMENT
jER RIGHT-SHADOWED WHITE RIGHTWARDS ARROW
gMINUS SIGN
hULTIPLICATION X
gNORTH EAST ARROW
rPOINTING BUD
baVINE LEAF
mWEST POINTING BUD
baVINE LEAF
gOPEN CENTRE CROSS
hUTLINED BLACK STAR
hVAL WITH OVAL INSIDE
gPLUS SIGN
gRIGHT-POINTING ANGLE BRACKET ORNAMENT
bbQUOTATION MARK ORNAMENT
lWARDS ARROW
w WITH EQUILATERAL ARROWHEAD
bcLARGE EQUILATERAL ARROWHEAD
hOUND-TIPPED RIGHTWARDS ARROW
gSALTIRE
iNS-SERIF INTERROBANG ORNAMENT
hCRIPT LIGATURE ET ORNAMENT
hINGLE COMMA QUOTATION MARK ORNAMENT
nTURNED COMMA QUOTATION MARK ORNAMENT
iX POINTED BLACK STAR
kSPOKED ASTERISK
hOUTH EAST ARROW
rPOINTING BUD
baVINE LEAF
mWEST POINTING BUD
baVINE LEAF
hPARKLE
gTEARDROP-SHANKED RIGHTWARDS ARROW
qPOKED ASTERISK
wPINWHEEL ASTERISK
hRIANGLE-HEADED RIGHTWARDS ARROW
hWELVE POINTED BLACK STAR
vPINWHEEL STAR
gUPPER RIGHT-SHADOWED WHITE RIGHTWARDS ARROW
iWARDS ARROW WITH EQUILATERAL ARROWHEAD
zLARGE EQUILATERAL ARROWHEAD
gVERTICAL BAR
gWEDGE-TAILED RIGHTWARDS ARROW
hHITE CIRCLE
mDOWN-POINTING TRIANGLE
mSQUARE
hIDE-HEADED RIGHTWARDS ARROW
cBREW ACCENT ATNAH HAFUKH
oDARGA
pEHI
oETNAHTA
oGERESH
u MUQDAM
rSHAYIM
oILUY
oMAHAPAKH
pERKHA
u KEFULA
pUNAH
oOLE
oPASHTA
qZER
oQADMA
qRNEY PARA
oREVIA
oSEGOL
pHALSHELET
oTELISHA GEDOLA
wQETANA
qVIR
pIPEHA
oYERAH BEN YOMO
qTIV
oZAQEF GADOL
uQATAN
qRQA
pINOR
hLETTER ALEF
s WITH MAPIQ
yPATAH
yQAMATS
qTERNATIVE AYIN
baPLUS SIGN
pYIN
oBET
r WITH DAGESH
xRAFE
oDALET
t WITH DAGESH
oFINAL KAF
x WITH DAGESH
uMEM
uNUN
uPE
w WITH DAGESH
uTSADI
oGIMEL
t WITH DAGESH
oHE
q WITH MAPIQ
qT
oKAF
r WITH DAGESH
xRAFE
oLAMED
t WITH DAGESH
oMEM
r WITH DAGESH
oNUN
r WITH DAGESH
oPE
q WITH DAGESH
wRAFE
oQOF
r WITH DAGESH
oRESH
s WITH DAGESH
oSAMEKH
u WITH DAGESH
pHIN
s WITH DAGESH
be AND SHIN DOT
bkIN DOT
ySHIN DOT
zIN DOT
oTAV
r WITH DAGESH
pET
r WITH DAGESH
pSADI
t WITH DAGESH
oVAV
r WITH DAGESH
xHOLAM
oWIDE ALEF
tDALET
tFINAL MEM
tHE
tKAF
tLAMED
tRESH
tTAV
oYOD
r WITH DAGESH
xHIRIQ
oZAYIN
t WITH DAGESH
iIGATURE ALEF LAMED
qYIDDISH DOUBLE VAV
bfYOD
yVAV YOD
yYOD YOD PATAH
hMARK LOWER DOT
mMASORA CIRCLE
mUPPER DOT
hPOINT DAGESH OR MAPIQ
nHATAF PATAH
tQAMATS
tSEGOL
oIRIQ
oOLAM
s HASER FOR VAV
nJUDEO-SPANISH VARIKA
nMETEG
nPATAH
nQAMATS
t QATAN
oUBUTS
nRAFE
nSEGOL
oHEVA
pIN DOT
oIN DOT
nTSERE
iUNCTUATION GERESH
wSHAYIM
tMAQAF
tNUN HAFUKHA
tPASEQ
tSOF PASUQ
hYOD TRIANGLE
cDGEHOG
cLICOPTER
dLSCHREIBER PAUSE SYMBOL
dM SYMBOL
eET WITH WHITE CROSS
cNTAIGANA LETTER A-1
u2
u3
uWO
sE-1
u2
u3
u4
u5
u6
sHA-1
w0
w1
v2
v3
v4
v5
v6
v7
v8
v9
tE-1
v2
v3
v4
v5
v6
v7
tI-1
v2
v3
v4
v5
v6
v7
tO-1
v2
v3
v4
v5
v6
v7
v8
tU-1
v2
v3
sI-1
u2
u3
u4
sKA-1
w0
w1
v2
v3
v4
v5
v6
v7
v8
v9
vKE
tE-1
v2
v3
v4
v5
v6
tI-1
v2
v3
v4
v5
v6
v7
v8
tO-1
v2
v3
vKI
tU-1
v2
v3
v4
v5
v6
v7
sMA-1
v2
v3
v4
v5
v6
v7
tE-1
v2
vMA
tI-1
v2
v3
v4
v5
v6
v7
tO-1
v2
v3
v4
v5
v6
tU-1
v2
v3
v4
sN-MU-MO-1
ba2
tA-1
v2
v3
v4
v5
v6
v7
v8
v9
tE-1
v2
v3
v4
v5
v6
vKO
tI-1
v2
v3
v4
v5
v6
v7
vTE
tO-1
v2
v3
v4
v5
tU-1
v2
v3
sO-1
u2
u3
sRA-1
v2
v3
v4
tE-1
v2
v3
v4
tI-1
v2
v3
v4
v5
v6
v7
tO-1
v2
v3
v4
v5
v6
tU-1
v2
v3
v4
v5
v6
sSA-1
v2
v3
v4
v5
v6
v7
v8
tE-1
v2
v3
v4
v5
tI-1
v2
v3
v4
v5
v6
tO-1
v2
v3
v4
v5
v6
v7
tU-1
v2
v3
v4
v5
v6
v7
v8
sTA-1
v2
v3
v4
tE-1
v2
v3
v4
v5
v6
v7
v8
v9
tI-1
v2
v3
v4
v5
v6
v7
tO-1
v2
v3
v4
v5
v6
vRA
tU-1
v2
v3
v4
vTO
sU-1
u2
u3
u4
u5
sWA-1
v2
v3
v4
v5
tE-1
v2
v3
v4
tI-1
v2
v3
v4
v5
tO-1
v2
v3
v4
v5
v6
v7
sYA-1
v2
v3
v4
v5
vYO
tO-1
v2
v3
v4
v5
v6
tU-1
v2
v3
v4
cRB
dMITIAN CONJUGATE MATRIX
cXAGRAM FOR ABUNDANCE
oFTER COMPLETION
oPPROACH
nBEFORE COMPLETION
oITING THROUGH
oREAKTHROUGH
nCOMING TO MEET
pNFLICT
qTEMPLATION
nDARKENING OF THE LIGHT
oECREASE
pLIVERANCE
pVELOPMENT
oIFFICULTY AT THE BEGINNING
pSPERSION
oURATION
nENTHUSIASM
nFELLOWSHIP
oOLLOWING
nGATHERING TOGETHER
oRACE
pEAT POSSESSION
vWER
uREPONDERANCE
tTAMING
nHOLDING TOGETHER
nINCREASE
pFLUENCE
pNER TRUTH
qOCENCE
nLIMITATION
nMODESTY
pUTH CORNERS
nOBSTRUCTION
oPPOSITION
qRESSION
nPEACE
oROGRESS
oUSHING UPWARD
nRETREAT
qURN
pVOLUTION
nSMALL PREPONDERANCE
tTAMING
oPLITTING APART
oTANDSTILL
nTHE ABYSMAL WATER
sRMY
tOUSING THUNDER
rCAULDRON
sLINGING FIRE
sREATIVE HEAVEN
rFAMILY
rGENTLE WIND
rJOYOUS LAKE
rKEEPING STILL MOUNTAIN
rMARRYING MAIDEN
rRECEPTIVE EARTH
rWANDERER
sELL
oREADING
nWAITING
oORK ON THE DECAYED
nYOUTHFUL FOLLY
bIBISCUS
cGH BRIGHTNESS SYMBOL
fOCTET PRESET
fVOLTAGE SIGN
e-HEELED SHOE
fSPEED TRAIN
q WITH BULLET NOSE
cKING BOOT
cNDU TEMPLE
cPPOPOTAMUS
cRAGANA DIGRAPH YORI
jITERATION MARK
jLETTER A
rRCHAIC WU
yYE
qBA
rE
rI
rO
rU
qDA
rE
rI
rO
rU
qE
qGA
rE
rI
rO
rU
qHA
rE
rI
rO
rU
qI
qKA
rE
rI
rO
rU
qMA
rE
rI
rO
rU
qN
rA
rE
rI
rO
rU
qO
qPA
rE
rI
rO
rU
qRA
rE
rI
rO
rU
qSA
rE
rI
rMALL A
wE
wI
wKA
xE
wO
wTU
wU
wWA
xE
xI
xO
wYA
xO
xU
rO
rU
qTA
rE
rI
rO
rU
qU
qVU
qWA
rE
rI
rO
qYA
rO
rU
qZA
rE
rI
rO
rU
jVOICED ITERATION MARK
cSTORIC SITE
bOCHO
cLE
dLOW QUILT SQUARE ORNAMENT
bc IN BLACK SQUARE
cMOTHETIC
cNEY POT
fBEE
cOK
cP
cRIZONTAL BAR
mLACK HEXAGON
rOCTAGON
lELLIPSIS
lLINE EXTENSION
lMALE WITH STROKE SIGN
lONE EIGHTH BLOCK-1358
bc2
bc3
bc4
bc5
bc6
bc7
lSCAN LINE-1
v3
v7
v9
lTAB KEY
oULATION
v SET
wWITH JUSTIFICATION
mRAFFIC LIGHT
dSE
f FACE
gRACING
cSPITAL
cT BEVERAGE
eDOG
ePEPPER
eSPRINGS
dEL
cURGLASS
j WITH FLOWING SAND
dSE
f BUILDING
oS
gWITH GARDEN
bRYVNIA SIGN
bT
cJ
cS
bUGGING FACE
cNDRED POINTS SYMBOL
cSHED FACE
cT
bYGIEA
cPHEN
g BULLET
hWITH DIAERESIS
g-MINUS
gATION POINT
dODIASTOLE
cSTERESIS SYMBOL
aI LOVE YOU HAND SIGN
bCE CREAM
fUBE
eHOCKEY STICK AND PUCK
eSKATE
bDENTICAL TO
m AND SLANTED PARALLEL
kWITH DOT ABOVE
gFICATION CARD
dOGRAPHIC ANNOTATION BOTTOM MARK
xEARTH MARK
xFIRST MARK
yOUR MARK
bbTH MARK
xHEAVEN MARK
xLINKING MARK
xMAN MARK
yIDDLE MARK
xONE MARK
xREVERSE MARK
xSECOND MARK
xTHIRD MARK
zREE MARK
yOP MARK
yWO MARK
mCLOSING MARK
nOMMA
mDEPARTING TONE MARK
oSCRIPTION CHARACTER ABOVE TO BELOW
brMIDDLE AND BELOW
biFULL SURROUND
biLEFT TO MIDDLE AND RIGHT
bqRIGHT
biOVERLAID
biSURROUND FROM ABOVE
bwBELOW
bwLEFT
bxOWER LEFT
bwUPPER LEFT
ccRIGHT
mENTERING TONE MARK
mFULL STOP
mHALF FILL SPACE
mITERATION MARK
mLEVEL TONE MARK
mNUMBER ZERO
mRISING TONE MARK
mSPACE
mTALLY MARK FIVE
yOUR
xONE
xTHREE
yWO
nELEGRAPH LINE FEED SEPARATOR SYMBOL
wSYMBOL FOR APRIL
biUGUST
bhDAY EIGHT
bqEEN
bmLEVEN
blFIFTEEN
bnVE
bmOUR
bpTEEN
blNINE
bpTEEN
blONE
blSEVEN
bqTEEN
bmIX
boTEEN
blTEN
bmHIRTEEN
bqY
br-ONE
bnREE
bmWELVE
boNTY
br-EIGHT
bsFIVE
btOUR
bsNINE
bsONE
bsSEVEN
btIX
bsTHREE
btWO
bnO
biECEMBER
bhFEBRUARY
bhHOUR EIGHT
brEEN
bnLEVEN
bmFIFTEEN
boVE
bnOUR
bqTEEN
bmNINE
bqTEEN
bmONE
bmSEVEN
brTEEN
bnIX
bpTEEN
bmTEN
bnHIRTEEN
boREE
bnWELVE
bpNTY
bs-FOUR
btONE
btTHREE
buWO
boO
bmZERO
bhJANUARY
biULY
bjNE
bhMARCH
bjY
bhNOVEMBER
bhOCTOBER
bhSEPTEMBER
mVARIATION INDICATOR
bMAGE OF
i OR APPROXIMATELY EQUAL TO
cP
dERIAL ARAMAIC LETTER ALEPH
zYIN
yBETH
yDALETH
yGIMEL
yHE
baTH
yKAPH
yLAMEDH
yMEM
yNUN
yPE
yQOPH
yRESH
ySADHE
baMEKH
zHIN
yTAW
zETH
yWAW
yYODH
yZAYIN
rNUMBER ONE
bb HUNDRED
bcTHOUSAND
yTEN
bb THOUSAND
zHREE
zWENTY
baO
rSECTION SIGN
bNBOX TRAY
cCOMING ENVELOPE
fPLETE INFINITY
dREASE FONT SIZE SYMBOL
iS AS
fMENT
cD
dEX
f POINTING AT THE VIEWER
dIAN RUPEE SIGN
eC SIYAQ ALTERNATE LAKH MARK
mFRACTION ONE HALF
zQUARTER
vTHREE QUARTERS
mLAKH MARK
mNUMBER ALTERNATE ONE
bdTEN THOUSAND
beWO
tEIGHT
y HUNDRED
zTHOUSAND
yY
z THOUSAND
tFIFTY
y THOUSAND
vVE
x HUNDRED
yTHOUSAND
uORTY
y THOUSAND
vUR
x HUNDRED
yTHOUSAND
tKAROR
yAN
tLAKH
xAN
tNINE
x HUNDRED
yTHOUSAND
xTY
z THOUSAND
tONE
w HUNDRED
xTHOUSAND
tPREFIXED EIGHT
bcFIVE
bdOUR
bcNINE
bcONE
bcSEVEN
bdIX
bcTHREE
bdWO
tSEVEN
y HUNDRED
zTHOUSAND
yTY
ba THOUSAND
uIX
w HUNDRED
xTHOUSAND
wTY
y THOUSAND
tTEN
w THOUSAND
uHIRTY
z THOUSAND
vREE
y HUNDRED
zTHOUSAND
uWENTY
z THOUSAND
vO
w HUNDRED
xTHOUSAND
mPLACEHOLDER
mRUPEE MARK
cFINITY
i NEGATED WITH VERTICAL BAR
dORMATION DESK PERSON
mSEPARATOR FOUR
wONE
wTHREE
xWO
nOURCE
cHIBIT ARABIC FORM SHAPING
iSYMMETRIC SWAPPING
cPUT SYMBOL FOR LATIN CAPITAL LETTERS
xLETTERS
xSMALL LETTERS
rNUMBERS
rSYMBOLS
cSCRIPTIONAL PAHLAVI LETTER ALEPH
bdBETH
bdDALETH
bdGIMEL
bdHE
bfTH
bdKAPH
bdLAMEDH
bdMEM-QOPH
bdNUN
bdPE
bdSADHE
bfMEKH
beHIN
bdTAW
beETH
bdWAW-AYIN-RESH
bdYODH
bdZAYIN
wNUMBER FOUR
bdONE
bg HUNDRED
bhTHOUSAND
bdTEN
beHREE
beWENTY
bfO
qRTHIAN LETTER ALEPH
bfYIN
beBETH
beDALETH
beGIMEL
beHE
bgTH
beKAPH
beLAMEDH
beMEM
beNUN
bePE
beQOPH
beRESH
beSADHE
bgMEKH
bfHIN
beTAW
bfETH
beWAW
beYODH
beZAYIN
xNUMBER FOUR
beONE
bh HUNDRED
biTHOUSAND
beTEN
bfHREE
bfWENTY
bgO
dERTION SYMBOL
cTEGRAL
i AROUND A POINT OPERATOR
kVERAGE WITH SLASH
jEXTENSION
jWITH DOUBLE STROKE
oINTERSECTION
oLEFTWARDS ARROW WITH HOOK
oOVERBAR
oTIMES SIGN
oUNDERBAR
qION
eRCALATE
fIOR PRODUCT
fLINEAR ANNOTATION ANCHOR
xSEPARATOR
xTERMINATOR
gOCKED FEMALE AND MALE SIGN
fROBANG
fSECTION
m ABOVE BAR ABOVE UNION
tUNION
nBESIDE AND JOINED WITH INTERSECTION
nWITH DOT
sLOGICAL AND
sOVERBAR
cVERSE BULLET
iCHECK MARK
nER BOARD FILL
iDOWNWARDS ARROW WITH TIP LEFTWARDS
iMEDIUM SHADE
iWHITE CIRCLE
fTED EXCLAMATION MARK
jINTERROBANG
jLAZY S
kOW KAVYKA
t WITH KAVYKA ABOVE
jOHM SIGN
jPENTAGRAM
jQUESTION MARK
jUNDERTIE
dISIBLE PLUS
kSEPARATOR
kTIMES
bZAKAYA LANTERN
aJACK-O-LANTERN
cPANESE BANK SYMBOL
jCASTLE
jDOLLS
jGOBLIN
jINDUSTRIAL STANDARD SYMBOL
jOGRE
jPOST OFFICE
jSYMBOL FOR BEGINNER
cR
cVANESE CONSONANT SIGN CAKRA
yKERET
yPENGKAL
jDIGIT EIGHT
pFIVE
qOUR
pNINE
pONE
pSEVEN
qIX
pTHREE
qWO
pZERO
jLEFT RERENGGAN
lTTER A
rI
qBA
s MURDA
qCA
s MURDA
qDA
s MAHAPRANA
rDA
t MAHAPRANA
qE
qGA
s MURDA
qHA
qI
r KAWI
rI
qJA
s MAHAPRANA
qKA
s MURDA
tSASAK
qLA
qMA
qNA
s MURDA
rGA
t LELET
z RASWADI
rYA
t MURDA
qO
qPA
s CEREK
tMURDA
qRA
s AGUNG
qSA
s MAHAPRANA
uURDA
qTA
s MURDA
rTA
t MAHAPRANA
qU
qWA
qYA
jPADA ADEG
s ADEG
pNDAP
oISEN-ISEN
oLINGSA
pUHUR
qNGSI
oMADYA
oPANGKAT
pISELEH
oTIRTA TUMETES
oWINDU
lNGKON
nRANGKEP
jRIGHT RERENGGAN
jSIGN CECAK
t TELU
oLAYAR
oPANYANGGA
oWIGNYAN
jTURNED PADA PISELEH
jVOWEL SIGN DIRGA MURE
uPEPET
uSUKU
y MENDUT
uTALING
wRUNG
vOLONG
uWULU
y MELIK
bEANS
bIGSAW PUZZLE PIECE
bOIN
cYSTICK
bUGGLING
cNO
cPITER
aKAABA
cITHI ABBREVIATION SIGN
hDANDA
iOUBLE DANDA
oSECTION MARK
hENUMERATION SIGN
hLETTER A
pA
pI
pU
oBA
pHA
oCA
pHA
oDA
pDA
qDHA
qHA
pHA
oE
oGA
pHA
oHA
oI
pI
oJA
pHA
oKA
pHA
oLA
oMA
oNA
pGA
pNA
pYA
oO
oPA
pHA
oRA
pHA
oSA
pHA
pSA
oTA
pHA
pTA
qHA
oU
pU
oVA
oYA
hNUMBER SIGN
s ABOVE
hSECTION MARK
iIGN ANUSVARA
mCANDRABINDU
mNUKTA
mVIRAMA
oSARGA
hVOWEL SIGN AA
tI
tU
sE
sI
tI
sO
sU
tU
sVOCALIC R
cNGAROO
eXI RADICAL AGAIN
qND
qRRIVE
sOW
qXE
pBADGER
rMBOO
qEAN
qIG
rRD
rTTER
qLACK
rOOD
rUE
qOAT
rDY
rLT OF CLOTH
rNE
rW
qRANCH
rISTLE
rUSH
pCART
rULDRON
rVE
qHILD
qITY
qLAN
sW
rIFF
rOTHES
qOLOR
rMPARE
rRPSE
rVER
rW
pDEATH
rER
qIPPER
rSH
sTINGUISH
rVINATION
qO NOT
rG
rOR
rT
sTED CLIFF
wTENT
rUBLE X
rWN BOX
qRAGON
rUM
rY
pEAR
sTH
rT
qIGHT
qMBROIDERY
qNCLOSURE
rTER
qVEN
tING
qYE
pFACE
rNG
rTHER
qEATHER
qIELD
rGHT
rRE
rSH
qLUTE
rY
qOOT
qRAGRANT
rOG
qUR
pGATE
qHOST
qO
r SLOWLY
rLD
qRAIN
sSS
pHAIR
rLBERD
sF TREE TRUNK
rND
qEAD
sRT
rMP
qIDING ENCLOSURE
qOOK
rRN
sSE
pICE
qNCH
rSECT
pJADE
rR
pKNIFE
pLACK
rME
qEAF
sTHER
rEK
rGS
qID
rFE
rNE
qONG
t STRIDE
pMAN
qEAT
rLON
qILLET
rNISTER
qOON
rRNING
sTAR
rUND
tTAIN
sTH
pNET
qOSE
rT
pOLD
qNE
sSELF
qPEN BOX
rPOSE
pPIG
qLOW
qOWER
qRIVATE
rOFOUND
pRAIN
rP
rT
qED
qICE
rGHT OPEN BOX
rVER
qOOF
qUN
pSACRIFICIAL WINE
rLT
rY
qCHOLAR
rRIPT
qEAL
rCOND
rE
rLF
qHEEP
sLL
rOOT
sRT TAILED BIRD
wHREAD
qICKNESS
rLK
qKIN
qLASH
sVE
rICE
qMALL
qNOUT
qOUND
qPEAR
sECH
rIRIT
rOON
rROUT
qQUARE
qTAND
rEAM
sP
rONE
sP
tPING
qUN
qWEET
pTABLE
rLL
rNNED LEATHER
qEN
qIGER
rLE
qONGUE
rOTH
qRACK
rEE
rIPOD
qURBAN
sTLE
qWO
s HANDS
pUSE
pVALLEY
qILLAGE
pWALK
t ENCLOSURE
rTER
qEAPON
rST
qHEAT
rITE
qIND
sE
qOMAN
rRK
qRAP
rONG
pYELLOW
dNADA AI LENGTH MARK
iDIGIT EIGHT
oFIVE
pOUR
oNINE
oONE
oSEVEN
pIX
oTHREE
pWO
oZERO
iLENGTH MARK
kTTER A
qA
qI
qU
pBA
qHA
pCA
qHA
pDA
qDA
rHA
qHA
pE
qE
pFA
pGA
qHA
pHA
pI
qI
pJA
qHA
pKA
qHA
pLA
qLA
rLA
pMA
pNA
rKAARA POLLU
qGA
qNA
qYA
pO
qO
pPA
qHA
pRA
qRA
pSA
qHA
qSA
pTA
qHA
qTA
rHA
pU
qU
pVA
qOCALIC L
yL
xR
yR
pYA
iSIGN ANUSVARA
oVAGRAHA
nCANDRABINDU
nJIHVAMULIYA
nNUKTA
nSIDDHAM
oPACING CANDRABINDU
nUPADHMANIYA
nVIRAMA
pSARGA
iVOWEL SIGN AA
uI
uU
tE
uE
tI
uI
tO
uO
tU
uU
tVOCALIC L
bcL
bbR
bcR
cTAKANA DIGRAPH KOTO
jITERATION MARK
jLETTER A
rRCHAIC E
yWU
yYE
zI
qBA
rE
rI
rO
rU
qDA
rE
rI
rO
rU
qE
qGA
rE
rI
rO
rU
qHA
rE
rI
rO
rU
qI
qKA
rE
rI
rO
rU
qMA
rE
rI
sNNAN NASALIZED TONE-1
bm2
bm3
bm4
bm5
bm7
bm8
xTONE-2
bc3
bc4
bc5
bc7
bc8
rO
rU
qN
rA
rE
rI
rO
rU
qO
qPA
rE
rI
rO
rU
qRA
rE
rI
rO
rU
qSA
rE
rI
rMALL A
wE
wHA
xE
xI
xO
xU
wI
wKA
xE
xU
wMU
wN
xU
wO
wRA
xE
xI
xO
xU
wSI
xU
wTO
xU
wU
wWA
xE
xI
xO
wYA
xO
xU
rO
rU
qTA
rE
rI
rO
rU
qU
qVA
rE
rI
rO
rU
qWA
rE
rI
rO
qYA
rO
rU
qZA
rE
rI
rO
rU
jMIDDLE DOT
jVOICED ITERATION MARK
i-HIRAGANA DOUBLE HYPHEN
sPROLONGED SOUND MARK
sSEMI-VOICED SOUND MARK
sVOICED SOUND MARK
cYAH LI DIGIT EIGHT
pFIVE
qOUR
pNINE
pONE
pSEVEN
qIX
pTHREE
qWO
pZERO
jLETTER A
qBA
qCA
qDA
qGA
qHA
rTA
qI
qKA
rHA
qLA
qMA
qNA
rGA
rYA
qOE
rO
qPA
rHA
qRA
qSA
rHA
qTA
rHA
qVA
qWA
qYA
qZA
jSIGN CWI
oSHYA
jTONE CALYA
t PLOPHU
oPLOPHU
jVOWEL E
qE
pO
pU
qE
bELVIN SIGN
cY
dBOARD
i AND MOUSE
dCAP TEN
bHAROSHTHI DIGIT FOUR
rONE
rTHREE
sWO
lFRACTION ONE HALF
lLETTER A
sBA
tHA
sCA
tHA
sDA
tDA
uHA
tHA
sGA
tHA
sHA
sJA
sKA
tHA
tKA
sLA
sMA
sNA
tNA
tYA
sPA
tHA
sRA
sSA
tHA
tSA
sTA
tHA
tTA
uHA
uTA
vHA
sVA
tHA
sYA
sZA
lNUMBER ONE HUNDRED
wTHOUSAND
sTEN
tWENTY
lPUNCTUATION CIRCLE
yRESCENT BAR
xDANDA
yOT
zUBLE DANDA
xLINES
yOTUS
xMANGALAM
xSMALL CIRCLE
lSIGN ANUSVARA
qBAR ABOVE
qCAUDA
qDOT BELOW
sUBLE RING BELOW
qVISARGA
lVIRAMA
mOWEL LENGTH MARK
rSIGN E
wI
wO
wU
wVOCALIC R
cITAN SMALL SCRIPT CHARACTER-18B00
bi1
bi2
bi3
bi4
bi5
bi6
bi7
bi8
bi9
biA
biB
biC
biD
biE
biF
bh10
bi1
bi2
bi3
bi4
bi5
bi6
bi7
bi8
bi9
biA
biB
biC
biD
biE
biF
bh20
bi1
bi2
bi3
bi4
bi5
bi6
bi7
bi8
bi9
biA
biB
biC
biD
biE
biF
bh30
bi1
bi2
bi3
bi4
bi5
bi6
bi7
bi8
bi9
biA
biB
biC
biD
biE
biF
bh40
bi1
bi2
bi3
bi4
bi5
bi6
bi7
bi8
bi9
biA
biB
biC
biD
biE
biF
bh50
bi1
bi2
bi3
bi4
bi5
bi6
bi7
bi8
bi9
biA
biB
biC
biD
biE
biF
bh60
bi1
bi2
bi3
bi4
bi5
bi6
bi7
bi8
bi9
biA
biB
biC
biD
biE
biF
bh70
bi1
bi2
bi3
bi4
bi5
bi6
bi7
bi8
bi9
biA
biB
biC
biD
biE
biF
bh80
bi1
bi2
bi3
bi4
bi5
bi6
bi7
bi8
bi9
biA
biB
biC
biD
biE
biF
bh90
bi1
bi2
bi3
bi4
bi5
bi6
bi7
bi8
bi9
biA
biB
biC
biD
biE
biF
bhA0
bi1
bi2
bi3
bi4
bi5
bi6
bi7
bi8
bi9
biA
biB
biC
biD
biE
biF
bhB0
bi1
bi2
bi3
bi4
bi5
bi6
bi7
bi8
bi9
biA
biB
biC
biD
biE
biF
bhC0
bi1
bi2
bi3
bi4
bi5
bi6
bi7
bi8
bi9
biA
biB
biC
biD
biE
biF
bhD0
bi1
bi2
bi3
bi4
bi5
bi6
bi7
bi8
bi9
biA
biB
biC
biD
biE
biF
bhE0
bi1
bi2
bi3
bi4
bi5
bi6
bi7
bi8
bi9
biA
biB
biC
biD
biE
biF
bhF0
bi1
bi2
bi3
bi4
bi5
bi6
bi7
bi8
bi9
biA
biB
biC
biD
biE
biF
bgC00
bi1
bi2
bi3
bi4
bi5
bi6
bi7
bi8
bi9
biA
biB
biC
biD
biE
biF
bh10
bi1
bi2
bi3
bi4
bi5
bi6
bi7
bi8
bi9
biA
biB
biC
biD
biE
biF
bh20
bi1
bi2
bi3
bi4
bi5
bi6
bi7
bi8
bi9
biA
biB
biC
biD
biE
biF
bh30
bi1
bi2
bi3
bi4
bi5
bi6
bi7
bi8
bi9
biA
biB
biC
biD
biE
biF
bh40
bi1
bi2
bi3
bi4
bi5
bi6
bi7
bi8
bi9
biA
biB
biC
biD
biE
biF
bh50
bi1
bi2
bi3
bi4
bi5
bi6
bi7
bi8
bi9
biA
biB
biC
biD
biE
biF
bh60
bi1
bi2
bi3
bi4
bi5
bi6
bi7
bi8
bi9
biA
biB
biC
biD
biE
biF
bh70
bi1
bi2
bi3
bi4
bi5
bi6
bi7
bi8
bi9
biA
biB
biC
biD
biE
biF
bh80
bi1
bi2
bi3
bi4
bi5
bi6
bi7
bi8
bi9
biA
biB
biC
biD
biE
biF
bh90
bi1
bi2
bi3
bi4
bi5
bi6
bi7
bi8
bi9
biA
biB
biC
biD
biE
biF
bhA0
bi1
bi2
bi3
bi4
bi5
bi6
bi7
bi8
bi9
biA
biB
biC
biD
biE
biF
bhB0
bi1
bi2
bi3
bi4
bi5
bi6
bi7
bi8
bi9
biA
biB
biC
biD
biE
biF
bhC0
bi1
bi2
bi3
bi4
bi5
bi6
bi7
bi8
bi9
biA
biB
biC
biD
biE
biF
bhD0
bi1
bi2
bi3
bi4
bi5
uFILLER
cMER CURRENCY SYMBOL RIEL
gDIGIT EIGHT
mFIVE
nOUR
mNINE
mONE
mSEVEN
nIX
mTHREE
nWO
mZERO
gINDEPENDENT VOWEL LY
baY
yQAA
baI
baQ
baU
zE
zI
baI
zOO TYPE ONE
bhTWO
zU
baK
baU
bbV
yRY
baY
gLETTER BA
nCA
oHA
pO
oO
nDA
oO
nHA
nKA
oHA
pO
oO
nLA
oO
nMO
nNGO
oNO
oO
oYO
nPHA
pO
oO
nQA
nRO
nSA
oHA
oSO
nTA
oHA
pO
oO
oTHA
qO
nVO
nYO
gSIGN AHSDA
mTTHACAN
mVAKRAHASANYA
lBANTOC
nRIYOOSAN
nTHAMASAT
mEYYAL
lCAMNUC PII KUUH
mOENG
lKAKABAT
mHAN
mOOMUUT
lLEK TOO
lMUUSIKATOAN
lNIKAHIT
lPHNAEK MUAN
lREAHMUK
mOBAT
lSAMYOK SANNYA
lTOANDAKHIAT
mRIISAP
lVIRIAM
lYUUKALEAPINTU
hYMBOL BEI KOET
rROC
oUON KOET
sROC
nDAP KOET
rROC
q-BEI KOET
vROC
sUON KOET
wROC
rMUOY KOET
wROC
rPII KOET
vROC
sRAM KOET
wROC
nLEK ATTAK BEI
yUON
xMUOY
xPII
yRAM
bb-BEI
bdUON
bcMUOY
bcPII
xSON
nMUOY KOET
sROC
nPATHAMASAT
oII KOET
rROC
oRAM KOET
sROC
r-BEI KOET
wROC
tUON KOET
xROC
sMUOY KOET
xROC
sPII KOET
wROC
nTUTEYASAT
gVOWEL INHERENT AA
wQ
mSIGN AA
sE
sI
sU
rE
rI
sE
sI
rOE
sO
rU
sA
sU
rY
sA
sY
cOJKI ABBREVIATION SIGN
hDANDA
iOUBLE DANDA
oSECTION MARK
hLETTER A
pA
pI
pU
oBA
pBA
pHA
oCA
pHA
oDA
pDA
qDA
qHA
pHA
oE
oGA
pGA
pHA
oHA
oI
oJA
pJA
oKA
pHA
oLA
pLA
oMA
oNA
pGA
pNA
pYA
oO
oPA
pHA
oRA
oSA
oTA
pHA
pTA
qHA
oU
oVA
oYA
hSECTION MARK
iIGN ANUSVARA
mNUKTA
mSHADDA
nUKUN
mVIRAMA
hVOWEL SIGN AA
tI
tU
sE
sI
tI
sO
sU
hWORD SEPARATOR
cUDAWADI DIGIT EIGHT
qFIVE
rOUR
qNINE
qONE
qSEVEN
rIX
qTHREE
rWO
qZERO
kLETTER A
sA
sI
sU
rBA
sBA
sHA
rCA
sHA
rDA
sDA
tDA
tHA
sHA
rE
rGA
sGA
sHA
rHA
rI
sI
rJA
sHA
sJA
rKA
sHA
rLA
rMA
rNA
sGA
sNA
sYA
rO
rPA
sHA
rRA
sRA
rSA
sHA
rTA
sHA
sTA
tHA
rU
sU
rVA
rYA
kSIGN ANUSVARA
pNUKTA
pVIRAMA
kVOWEL SIGN AA
wI
wU
vE
vI
wI
vO
vU
wU
bIMONO
cP SIGN
cSS
e MARK
eING CAT FACE WITH CLOSED EYES
iFACE
m WITH CLOSED EYES
sSMILING EYES
cTE
cWIFRUIT
bNEELING PERSON
cOT
bOALA
cREAN STANDARD SYMBOL
bRONOS
aL B BAR SYMBOL
bAB COAT
dEL
cCROSSE STICK AND BALL
cDDER
dY BEETLE
cNGUAGE TAG
cO CANCELLATION MARK
eDIGIT EIGHT
kFIVE
lOUR
kNINE
kONE
kSEVEN
lIX
kTHREE
lWO
kZERO
eELLIPSIS
eHO MO
hNO
eKO LA
eLETTER BO
lCO
lDO
lFO FAY
pON
oSUNG
oTAM
lHO SUNG
oTAM
lKHMU GO
qNYO
nO SUNG
pTAM
mO
lLO
n LING
pOOT
lMO
lNGO
mO
mYO
lO
lPALI BHA
qCHA
qDDA
sHA
rHA
qGHA
qJHA
qLLA
qNNA
rYA
qTTA
sHA
mHO SUNG
pTAM
mO
lRO
lSANSKRIT SHA
vSA
mO SUNG
oTAM
lTHO SUNG
pTAM
mO
lWO
lYO
eNIGGAHITA
eSEMIVOWEL SIGN LO
tNYO
fIGN PALI VIRAMA
eTONE MAI CATAWA
nEK
nTHO
oI
eVOWEL SIGN A
qA
qI
qM
qY
pE
qI
pI
qI
pMAI KAN
uON
pO
pU
qU
pY
qY
cRGE BLUE CIRCLE
lDIAMOND
lSQUARE
hROWN CIRCLE
mSQUARE
gCIRCLE
gDOWN TACK
gGREEN CIRCLE
mSQUARE
gLEFT TRIANGLE OPERATOR
gONE DOT OVER TWO DOTS PUNCTUATION
kRING OVER TWO RINGS PUNCTUATION
hRANGE CIRCLE
nDIAMOND
nSQUARE
gPURPLE CIRCLE
nSQUARE
gRED CIRCLE
kSQUARE
gTRIPLE VERTICAL BAR OPERATOR
hWO DOTS OVER ONE DOT PUNCTUATION
kRINGS OVER ONE RING PUNCTUATION
gUP TACK
gYELLOW CIRCLE
nSQUARE
fR THAN
l OR EQUAL TO
dI SIGN
cST QUARTER MOON
r SYMBOL
sWITH FACE
cTIN CAPITAL LETTER A
w WITH ACUTE
bcBREVE
bh AND ACUTE
bmDOT BELOW
bmGRAVE
bmHOOK ABOVE
bmTILDE
bcCARON
bdIRCUMFLEX
bm AND ACUTE
brDOT BELOW
brGRAVE
brHOOK ABOVE
brTILDE
bcDIAERESIS
bl AND MACRON
bdOT ABOVE
bl AND MACRON
bgBELOW
beUBLE GRAVE
bcGRAVE
bcHOOK ABOVE
bcINVERTED BREVE
bcMACRON
bcOGONEK
bcRING ABOVE
bm AND ACUTE
bhBELOW
bcSTROKE
bcTILDE
wA
wE
x WITH ACUTE
bdMACRON
wFRICAN D
wLPHA
wNGLICANA W
wO
wU
wV
x WITH HORIZONTAL BAR
wY
vB
w WITH DOT ABOVE
bgBELOW
bcFLOURISH
bcHOOK
bcLINE BELOW
bcSTROKE
bcTOPBAR
wETA
wROKEN L
vC
w WITH ACUTE
bcBAR
bcCARON
bdEDILLA
bj AND ACUTE
bdIRCUMFLEX
bcDOT ABOVE
bcHOOK
bcPALATAL HOOK
bcSTROKE
wHI
wLOSED INSULAR G
wON
wUATRILLO
be WITH COMMA
vD
w WITH CARON
bdEDILLA
bdIRCUMFLEX BELOW
bcDOT ABOVE
bgBELOW
bcHOOK
bcLINE BELOW
bcSHORT STROKE OVERLAY
bdMALL LETTER Z
bq WITH CARON
bdTROKE
bcTOPBAR
wZ
x WITH CARON
vE
w WITH ACUTE
bcBREVE
bcCARON
bdEDILLA
bj AND BREVE
bdIRCUMFLEX
bm AND ACUTE
brDOT BELOW
brGRAVE
brHOOK ABOVE
brTILDE
bnBELOW
bcDIAERESIS
bdOT ABOVE
bgBELOW
beUBLE GRAVE
bcGRAVE
bcHOOK ABOVE
bcINVERTED BREVE
bcMACRON
bi AND ACUTE
bnGRAVE
bcOGONEK
bcSTROKE
bcTILDE
bh BELOW
wGYPTOLOGICAL AIN
bkLEF
wNG
wSH
wT
xH
wZH
y REVERSED
zWITH CARON
vF
w WITH DOT ABOVE
bcHOOK
bcSTROKE
vG
w WITH ACUTE
bcBREVE
bcCARON
bdEDILLA
bdIRCUMFLEX
bcDOT ABOVE
bcHOOK
bcMACRON
bcOBLIQUE STROKE
bcSTROKE
wAMMA
wHA
wLOTTAL A
bdI
bdSTOP
bdU
vH
w WITH BREVE BELOW
bcCARON
bdEDILLA
bdIRCUMFLEX
bcDESCENDER
bdIAERESIS
bdOT ABOVE
bgBELOW
bcHOOK
bcSTROKE
wALF H
wENG
wWAIR
vI
w WITH ACUTE
bcBREVE
bcCARON
bdIRCUMFLEX
bcDIAERESIS
bl AND ACUTE
bdOT ABOVE
bgBELOW
beUBLE GRAVE
bcGRAVE
bcHOOK ABOVE
bcINVERTED BREVE
bcMACRON
bcOGONEK
bcSTROKE
bcTILDE
bh BELOW
wNSULAR D
bdF
bdG
bdR
bdS
bdT
wOTA
wS
vJ
w WITH CIRCUMFLEX
bdROSSED-TAIL
bcSTROKE
vK
w WITH ACUTE
bcCARON
bdEDILLA
bcDESCENDER
bdIAGONAL STROKE
bdOT BELOW
bcHOOK
bcLINE BELOW
bcOBLIQUE STROKE
bcSTROKE
bi AND DIAGONAL STROKE
vL
w WITH ACUTE
bcBAR
bdELT
bcCARON
bdEDILLA
bdIRCUMFLEX BELOW
bcDOT BELOW
bl AND MACRON
beUBLE BAR
bcHIGH STROKE
bcLINE BELOW
bcMIDDLE DOT
bjTILDE
bcSMALL LETTER J
bdTROKE
wJ
vM
w WITH ACUTE
bcDOT ABOVE
bgBELOW
bcHOOK
wIDDLE SCOTS S
bb-WELSH LL
biV
vN
w WITH ACUTE
bcCARON
bdEDILLA
bdIRCUMFLEX BELOW
bcDESCENDER
bdOT ABOVE
bgBELOW
bcGRAVE
bcLEFT HOOK
bdINE BELOW
bdONG RIGHT LEG
bcOBLIQUE STROKE
bcSMALL LETTER J
bcTILDE
wJ
vO
w WITH ACUTE
bcBREVE
bcCARON
bdIRCUMFLEX
bm AND ACUTE
brDOT BELOW
brGRAVE
brHOOK ABOVE
brTILDE
bcDIAERESIS
bl AND MACRON
bdOT ABOVE
bl AND MACRON
bgBELOW
beUBLE ACUTE
bjGRAVE
bcGRAVE
bcHOOK ABOVE
beRN
bg AND ACUTE
blDOT BELOW
blGRAVE
blHOOK ABOVE
blTILDE
bcINVERTED BREVE
bcLONG STROKE OVERLAY
beOP
bcMACRON
bi AND ACUTE
bnGRAVE
bdIDDLE TILDE
bcOGONEK
bi AND MACRON
bcSTROKE
bi AND ACUTE
bcTILDE
bh AND ACUTE
bmDIAERESIS
bmMACRON
wI
wLD POLISH O
wMEGA
wO
wPEN E
baO
wU
vP
w WITH ACUTE
bcDOT ABOVE
bcFLOURISH
bcHOOK
bcSQUIRREL TAIL
bdTROKE
bi THROUGH DESCENDER
vQ
w WITH DIAGONAL STROKE
bcSTROKE THROUGH DESCENDER
vR
w ROTUNDA
xWITH ACUTE
bcCARON
bdEDILLA
bcDOT ABOVE
bgBELOW
bl AND MACRON
beUBLE GRAVE
bcINVERTED BREVE
bcLINE BELOW
bcOBLIQUE STROKE
bcSTROKE
bcTAIL
wEVERSED C WITH DOT
beE
beHALF H
beOPEN E
wUM ROTUNDA
vS
w WITH ACUTE
bh AND DOT ABOVE
bcCARON
bh AND DOT ABOVE
bdEDILLA
bdIRCUMFLEX
bdOMMA BELOW
bcDOT ABOVE
bgBELOW
bl AND DOT ABOVE
bcHOOK
bcOBLIQUE STROKE
bcSHORT STROKE OVERLAY
bdWASH TAIL
wALTILLO
wCHWA
xRIPT G
wHARP S
wIGMOID S
wMALL CAPITAL I
bbQ WITH HOOK TAIL
vT
w WITH CARON
bdEDILLA
bdIRCUMFLEX BELOW
bdOMMA BELOW
bcDIAGONAL STROKE
bdOT ABOVE
bgBELOW
bcHOOK
bcLINE BELOW
bcRETROFLEX HOOK
bcSTROKE
wHORN
ba WITH STROKE
bm THROUGH DESCENDER
wONE FIVE
baSIX
baTWO
wRESILLO
wURNED A
bdLPHA
bcH
bcINSULAR G
bcK
bcL
bcM
bcT
bcV
wZ
vU
w BAR
xWITH ACUTE
bcBREVE
bcCARON
bdIRCUMFLEX
bm BELOW
bcDIAERESIS
bl AND ACUTE
bqCARON
bqGRAVE
bqMACRON
bmBELOW
bdOT BELOW
beUBLE ACUTE
bjGRAVE
bcGRAVE
bcHOOK ABOVE
beRN
bg AND ACUTE
blDOT BELOW
blGRAVE
blHOOK ABOVE
blTILDE
bcINVERTED BREVE
bcMACRON
bi AND DIAERESIS
bcOGONEK
bcRING ABOVE
bcSTROKE
bcTILDE
bh AND ACUTE
biBELOW
wPSILON
vV
w WITH DIAGONAL STROKE
bdOT BELOW
bcHOOK
bcTILDE
wEND
wISIGOTHIC Z
wOLAPUK AE
bdOE
bdUE
wY
vW
w WITH ACUTE
bcCIRCUMFLEX
bcDIAERESIS
bdOT ABOVE
bgBELOW
bcGRAVE
bcHOOK
wYNN
vX
w WITH DIAERESIS
bdOT ABOVE
vY
w WITH ACUTE
bcCIRCUMFLEX
bcDIAERESIS
bdOT ABOVE
bgBELOW
bcGRAVE
bcHOOK
bg ABOVE
bcLOOP
bcMACRON
bcSTROKE
bcTILDE
wOGH
vZ
w WITH ACUTE
bcCARON
bdIRCUMFLEX
bcDESCENDER
bdOT ABOVE
bgBELOW
bcHOOK
bcLINE BELOW
bcPALATAL HOOK
bcSTROKE
bdWASH TAIL
pIGATURE IJ
xOE
hROSS
gEPIGRAPHIC LETTER ARCHAIC M
yI LONGA
zNVERTED M
yREVERSED F
bhP
ySIDEWAYS I
gLETTER AIN
oLVEOLAR CLICK
nBIDENTAL PERCUSSIVE
pLABIAL CLICK
wPERCUSSIVE
nDENTAL CLICK
nGLOTTAL STOP
z WITH STROKE
nINVERTED GLOTTAL STOP
bi WITH CURL
boSTROKE
nLATERAL CLICK
nPHARYNGEAL VOICED FRICATIVE
nRETROFLEX CLICK
bc WITH RETROFLEX HOOK
pVERSED ESH LOOP
wGLOTTAL STOP WITH STROKE
nSINOLOGICAL DOT
oMALL CAPITAL A
bcE
bbB
bcARRED B
bbC
bbD
bbE
bcTH
bcZH
bbF
bbG
bc WITH HOOK
bbH
bbI
bcNVERTED R
bbJ
bbK
bbL
bc WITH BELT
biSTROKE
bbM
bbN
bbO
bcE
bcPEN O
bcU
bbP
bbQ
bbR
bc WITH RIGHT LEG
bcEVERSED N
bkR
bcUM
bbS
bbT
bcURNED E
biG
biK
biM
biR
bbU
bbV
bbW
bbY
bbZ
oTRETCHED C
y WITH CURL
nTWO WITH STROKE
nVOICED LARYNGEAL SPIRANT
nWYNN
nYR
gSMALL CAPITAL LETTER I WITH STROKE
bbU WITH STROKE
mLETTER A
u REVERSED-SCHWA
vWITH ACUTE
baBREVE
bf AND ACUTE
bkDOT BELOW
bkGRAVE
bkHOOK ABOVE
bkTILDE
baCARON
bbIRCUMFLEX
bk AND ACUTE
bpDOT BELOW
bpGRAVE
bpHOOK ABOVE
bpTILDE
baDIAERESIS
bj AND MACRON
bbOT ABOVE
bj AND MACRON
beBELOW
bcUBLE GRAVE
baGRAVE
baHOOK ABOVE
baINVERTED BREVE
baMACRON
baOGONEK
baRETROFLEX HOOK
bbIGHT HALF RING
bcNG ABOVE
bk AND ACUTE
bfBELOW
baSTROKE
baTILDE
uA
uE
v WITH ACUTE
bbMACRON
uLPHA
y WITH RETROFLEX HOOK
uNGLICANA W
uO
uU
uV
v WITH HORIZONTAL BAR
uY
tB
u WITH DOT ABOVE
beBELOW
baFLOURISH
baHOOK
baLINE BELOW
baMIDDLE TILDE
baPALATAL HOOK
baSTROKE
baTOPBAR
uARRED ALPHA
baE
baO
vSELINE ESH
uETA
uLACKLETTER E
bfO
bg WITH STROKE
uOTTOM HALF O
uROKEN L
tC
u WITH ACUTE
baBAR
baCARON
bbEDILLA
bh AND ACUTE
bbIRCUMFLEX
bbURL
baDOT ABOVE
baHOOK
baPALATAL HOOK
baRETROFLEX HOOK
baSTROKE
uHI
w WITH LOW LEFT SERIF
bgRIGHT RING
uLOSED INSULAR G
baOMEGA
bbPEN E
baREVERSED OPEN E
uON
uUATRILLO
bc WITH COMMA
tD
u WITH CARON
bbEDILLA
bbIRCUMFLEX BELOW
bbURL
baDOT ABOVE
beBELOW
baHOOK
be AND TAIL
baLINE BELOW
baMIDDLE TILDE
baPALATAL HOOK
baSHORT STROKE OVERLAY
bbTROKE
baTAIL
bbOPBAR
uB DIGRAPH
uELTA
vZH DIGRAPH
bf WITH PALATAL HOOK
blRETROFLEX HOOK
uOTLESS I
bbJ
bc WITH STROKE
bo AND HOOK
vUBLE R
bb WITH CROSSED-TAIL
baTHORN
baWYNN
uUM
uZ
v DIGRAPH
bd WITH CURL
bjRETROFLEX HOOK
wWITH CARON
tE
u WITH ACUTE
baBREVE
baCARON
bbEDILLA
bh AND BREVE
bbIRCUMFLEX
bk AND ACUTE
bpDOT BELOW
bpGRAVE
bpHOOK ABOVE
bpTILDE
blBELOW
baDIAERESIS
bbOT ABOVE
beBELOW
bcUBLE GRAVE
baFLOURISH
baGRAVE
baHOOK ABOVE
baINVERTED BREVE
baMACRON
bg AND ACUTE
blGRAVE
baNOTCH
baOGONEK
baRETROFLEX HOOK
baSTROKE
baTILDE
bf BELOW
uGYPTOLOGICAL AIN
biLEF
uNG
w WITH CROSSED-TAIL
bcPALATAL HOOK
uSH
w WITH CURL
bcDOUBLE BAR
bm AND CURL
bcPALATAL HOOK
bcRETROFLEX HOOK
uT
vH
uZH
w REVERSED
xWITH CARON
bdURL
bcPALATAL HOOK
bcRETROFLEX HOOK
bcTAIL
tF
u WITH DOT ABOVE
baHOOK
baMIDDLE TILDE
baPALATAL HOOK
baSTROKE
uENG DIGRAPH
bf WITH TRILL
tG
u WITH ACUTE
baBREVE
baCARON
bbEDILLA
bbIRCUMFLEX
baDOT ABOVE
baHOOK
baMACRON
baOBLIQUE STROKE
baPALATAL HOOK
baSTROKE
uAMMA
uHA
uLOTTAL A
bbI
bbSTOP
bbU
tH
u WITH BREVE BELOW
baCARON
bbEDILLA
bbIRCUMFLEX
baDESCENDER
bbIAERESIS
bbOT ABOVE
beBELOW
baHOOK
baLINE BELOW
baPALATAL HOOK
baSTROKE
uALF H
uENG
x WITH HOOK
uV
tI
u WITH ACUTE
baBREVE
baCARON
bbIRCUMFLEX
baDIAERESIS
bj AND ACUTE
bbOT BELOW
bcUBLE GRAVE
baGRAVE
baHOOK ABOVE
baINVERTED BREVE
baMACRON
baOGONEK
baRETROFLEX HOOK
baSTROKE
bg AND RETROFLEX HOOK
baTILDE
bf BELOW
uNSULAR D
bbF
bbG
bbR
bbS
bbT
vVERTED ALPHA
bcOE
uOTA
x WITH STROKE
wIFIED E
uS
tJ
u WITH CARON
bbIRCUMFLEX
bbROSSED-TAIL
baSTROKE
tK
u WITH ACUTE
baCARON
bbEDILLA
baDESCENDER
bbIAGONAL STROKE
bbOT BELOW
baHOOK
baLINE BELOW
baOBLIQUE STROKE
baPALATAL HOOK
baSTROKE
bg AND DIAGONAL STROKE
uRA
tL
u WITH ACUTE
baBAR
bbELT
be AND PALATAL HOOK
baCARON
bbEDILLA
bbIRCUMFLEX BELOW
bbURL
baDOT BELOW
bj AND MACRON
bcUBLE BAR
bhMIDDLE TILDE
baFISHHOOK
baHIGH STROKE
baINVERTED LAZY S
baLINE BELOW
baMIDDLE DOT
bhRING
bhTILDE
baPALATAL HOOK
baRETROFLEX HOOK
bo AND BELT
baSTROKE
uAMBDA WITH STROKE
uENIS F
vZH
x WITH RETROFLEX HOOK
uJ
uONG S
z WITH DIAGONAL STROKE
bgOT ABOVE
bfHIGH STROKE
uS DIGRAPH
uUM
uZ DIGRAPH
tM
u WITH ACUTE
baCROSSED-TAIL
baDOT ABOVE
beBELOW
baHOOK
baMIDDLE TILDE
baPALATAL HOOK
uIDDLE SCOTS S
z-WELSH LL
bgV
uUM
tN
u PRECEDED BY APOSTROPHE
vWITH ACUTE
baCARON
bbEDILLA
bbIRCUMFLEX BELOW
bbROSSED-TAIL
bbURL
baDESCENDER
bbOT ABOVE
beBELOW
baGRAVE
baLEFT HOOK
bbINE BELOW
bbONG RIGHT LEG
baMIDDLE TILDE
baOBLIQUE STROKE
baPALATAL HOOK
baRETROFLEX HOOK
baTILDE
uJ
uUM
tO
u WITH ACUTE
baBREVE
baCARON
bbIRCUMFLEX
bk AND ACUTE
bpDOT BELOW
bpGRAVE
bpHOOK ABOVE
bpTILDE
baDIAERESIS
bj AND MACRON
bbOT ABOVE
bj AND MACRON
beBELOW
bcUBLE ACUTE
bhGRAVE
baGRAVE
baHOOK ABOVE
bcRN
be AND ACUTE
bjDOT BELOW
bjGRAVE
bjHOOK ABOVE
bjTILDE
baINVERTED BREVE
baLONG STROKE OVERLAY
bcOP
bcW RING INSIDE
baMACRON
bg AND ACUTE
blGRAVE
baOGONEK
bg AND MACRON
baRETROFLEX HOOK
baSTROKE
bg AND ACUTE
baTILDE
bf AND ACUTE
bkDIAERESIS
bkMACRON
uI
uLD POLISH O
uMEGA
uO
uPEN E
z WITH RETROFLEX HOOK
yO
z WITH RETROFLEX HOOK
bfSTROKE
zE
uU
tP
u WITH ACUTE
baDOT ABOVE
baFLOURISH
baHOOK
baMIDDLE TILDE
baPALATAL HOOK
baSQUIRREL TAIL
bbTROKE
bg THROUGH DESCENDER
uHI
tQ
u WITH DIAGONAL STROKE
baHOOK
be TAIL
baSTROKE THROUGH DESCENDER
uP DIGRAPH
tR
u ROTUNDA
vWITH ACUTE
baCARON
bbEDILLA
bbROSSED-TAIL
baDOT ABOVE
beBELOW
bj AND MACRON
bcUBLE GRAVE
baFISHHOOK
bi AND MIDDLE TILDE
bnPALATAL HOOK
baINVERTED BREVE
baLINE BELOW
bbONG LEG
baMIDDLE TILDE
baOBLIQUE STROKE
baPALATAL HOOK
baSTROKE
baTAIL
zOUT HANDLE
uAMS HORN
uEVERSED C
bd WITH DOT
bcE
bdNG
bcHALF H
bcK
bcOPEN E
bi WITH HOOK
boRETROFLEX HOOK
bcR WITH FISHHOOK
bcSCRIPT G
uUM
w ROTUNDA
tS
u WITH ACUTE
bf AND DOT ABOVE
baCARON
bf AND DOT ABOVE
bbEDILLA
bbIRCUMFLEX
bbOMMA BELOW
bbURL
baDOT ABOVE
beBELOW
bj AND DOT ABOVE
baHOOK
baMIDDLE TILDE
baOBLIQUE STROKE
baPALATAL HOOK
baSHORT STROKE OVERLAY
bbWASH TAIL
uAKHA YAT
vLTILLO
uCHWA
y WITH HOOK
beRETROFLEX HOOK
vRIPT G
bb WITH CROSSED-TAIL
baR
bb WITH RING
uHARP S
uIDEWAYS DIAERESIZED U
bcO
bd WITH STROKE
bdPEN O
bcTURNED M
bcU
vGMOID S
uQUAT REVERSED ESH
uTIRRUP R
tT
u WITH CARON
bbEDILLA
bbIRCUMFLEX BELOW
bbOMMA BELOW
bbURL
baDIAERESIS
bdGONAL STROKE
bbOT ABOVE
beBELOW
baHOOK
be AND RETROFLEX HOOK
baLINE BELOW
baMIDDLE TILDE
baPALATAL HOOK
baRETROFLEX HOOK
baSTROKE
uAILLESS PHI
uC DIGRAPH WITH CURL
uESH DIGRAPH
bf WITH PALATAL HOOK
blRETROFLEX HOOK
uH WITH STRIKETHROUGH
vORN
y WITH STROKE
bk THROUGH DESCENDER
uONE FIVE
ySIX
yTWO
vP HALF O
uRESILLO
uS DIGRAPH
bd WITH RETROFLEX HOOK
uUM
vRNED A
bbE
bbLPHA
baDELTA
baE
baG
baH
bb WITH FISHHOOK
bp AND TAIL
baI
bbNSULAR G
baK
baL
baM
bb WITH LONG LEG
baO OPEN-O
bi WITH STROKE
bbE
bc WITH HORIZONTAL STROKE
biSTROKE
bbPEN E
baR
bb WITH HOOK
bhLONG LEG
bp AND RETROFLEX HOOK
bhMIDDLE TILDE
bhPALATAL HOOK
bhTAIL
baT
bb WITH CURL
baUI
baV
baW
baY
bb WITH BELT
uZ
tU
u BAR
y WITH SHORT RIGHT LEG
vWITH ACUTE
baBREVE
baCARON
bbIRCUMFLEX
bk BELOW
baDIAERESIS
bj AND ACUTE
boCARON
boGRAVE
boMACRON
bkBELOW
bbOT BELOW
bcUBLE ACUTE
bhGRAVE
baGRAVE
baHOOK ABOVE
bcRN
be AND ACUTE
bjDOT BELOW
bjGRAVE
bjHOOK ABOVE
bjTILDE
baINVERTED BREVE
baLEFT HOOK
baMACRON
bg AND DIAERESIS
baOGONEK
baRETROFLEX HOOK
bbING ABOVE
baSHORT RIGHT LEG
bbTROKE
baTILDE
bf AND ACUTE
bgBELOW
uE
uI
uM
uO
uPSILON
ba WITH STROKE
tV
u WITH CURL
baDIAGONAL STROKE
bbOT BELOW
baHOOK
baPALATAL HOOK
baRIGHT HOOK
baTILDE
uEND
uISIGOTHIC Z
uOLAPUK AE
bbOE
bbUE
uY
tW
u WITH ACUTE
baCIRCUMFLEX
baDIAERESIS
bbOT ABOVE
beBELOW
baGRAVE
baHOOK
baRING ABOVE
tX
u WITH DIAERESIS
bbOT ABOVE
baLONG LEFT LEG
bn AND LOW RIGHT RING
boWITH SERIF
bcW RIGHT RING
baPALATAL HOOK
tY
u WITH ACUTE
baCIRCUMFLEX
baDIAERESIS
bbOT ABOVE
beBELOW
baGRAVE
baHOOK
be ABOVE
baLOOP
baMACRON
baRING ABOVE
baSHORT RIGHT LEG
bbTROKE
baTILDE
uOGH
tZ
u WITH ACUTE
baCARON
bbIRCUMFLEX
bbURL
baDESCENDER
bbOT ABOVE
beBELOW
baHOOK
baLINE BELOW
baMIDDLE TILDE
baPALATAL HOOK
baRETROFLEX HOOK
baSTROKE
bbWASH TAIL
nIGATURE FF
xI
xL
wI
wL
vIJ
vLONG S T
vOE
vST
hUBSCRIPT SMALL LETTER A
bdE
bdH
bdI
bdJ
bdK
bdL
bdM
bdN
bdO
bdP
bdR
bdS
beCHWA
bdT
bdU
bdV
bdX
bEAF FLUTTERING IN WIND
eY GREEN
cDGER
cFT AND LOWER AND RIGHT TRIANGULAR THREE QUARTERS BLOCK
pONE EIGHTH BLOCK
jRIGHT DOUBLE TURNSTILE
pTACK
qRIANGULAR HALF BLOCK
jUPPER AND RIGHT TRIANGULAR THREE QUARTERS BLOCK
pONE EIGHTH BLOCK
hGER BUBBLE
iLE BRACKET
s WITH DOT
gRC LESS-THAN BRACKET
hROW WITH CIRCLED PLUS
qSMALL CIRCLE
fBARB DOWN RIGHT BARB DOWN HARPOON
baUP HARPOON
kUP RIGHT BARB DOWN HARPOON
yUP HARPOON
gLACK LENTICULAR BRACKET
lTORTOISE SHELL BRACKET
fCEILING
gLOSED ENTRY
gORNER BRACKET
gURLY BRACKET
s LOWER HOOK
tMIDDLE PIECE
tUPPER HOOK
fDOTTED SUBSTITUTION BRACKET
hUBLE ANGLE BRACKET
mPARENTHESIS
mQUOTATION MARK
mWIGGLY FENCE
fFISH TAIL
hVE EIGHTHS BLOCK
gLOOR
fHALF BLACK CIRCLE
qSTAR
mOCK
kCIRCLE
q WITH DOT
wFOUR DOTS
wTHREE DOTS
xWO DOTS
kFOLDER
kINVERSE MEDIUM SHADE AND RIGHT HALF BLOCK
kMEDIUM SHADE
kRUNNING MAN
hND TELEPHONE RECEIVER
fLOW PARAPHRASE BRACKET
gUGGAGE
fMULTIMAP
fNORMAL FACTOR SEMIDIRECT PRODUCT
fONE EIGHTH BLOCK
jQUARTER BLOCK
gUTER JOIN
fPARENTHESIS
q EXTENSION
rLOWER HOOK
rUPPER HOOK
fRAISED OMISSION BRACKET
gIGHT ARROW
q THROUGH SMALL CIRCLE
rWITH DOUBLE VERTICAL STROKE
wSTROKE
wVERTICAL STROKE
lBLACK ARROW
lDOUBLE ARROW
x WITH STROKE
bdVERTICAL STROKE
lOPEN-HEADED ARROW
lSANS-SERIF ARROW
lTRIANGLE-HEADED ARROW
lWAVE ARROW
mHITE ARROW
fS-SHAPED BAG DELIMITER
gEMIDIRECT PRODUCT
hVEN EIGHTHS BLOCK
gIDEWAYS U BRACKET
hNGLE QUOTATION MARK
gPEECH BUBBLE
gQUARE BRACKET
t EXTENSION
uLOWER CORNER
uUPPER CORNER
uWITH DOUBLE STROKE
zQUILL
zSTROKE
zTICK IN BOTTOM CORNER
bhTOP CORNER
zUNDERBAR
gUBSTITUTION BRACKET
fTACK
gHIRD WHITE RIGHT POINTING INDEX
hOUGHT BUBBLE
hREE EIGHTHS BLOCK
lQUARTERS BLOCK
gORTOISE SHELL BRACKET
gRANSPOSITION BRACKET
hIANGLE BESIDE VERTICAL BAR
lULAR ONE QUARTER BLOCK
fVERTICAL BAR WITH QUILL
pOX LINE
fWHITE CORNER BRACKET
mURLY BRACKET
lLENTICULAR BRACKET
lPARENTHESIS
lSQUARE BRACKET
lTORTOISE SHELL BRACKET
gIGGLY FENCE
gRITING HAND
e-FACING ARMENIAN ETERNITY SIGN
mFIST
mSVASTI SIGN
x WITH DOTS
fHANDED INTERLACED PENTAGRAM
fPOINTING ANGLE BRACKET
oCURVED ANGLE BRACKET
oDOUBLE ANGLE QUOTATION MARK
oMAGNIFYING GLASS
fSHADED WHITE RIGHTWARDS ARROW
gIDE ARC ANTICLOCKWISE ARROW
fTO-RIGHT EMBEDDING
oISOLATE
oMARK
oOVERRIDE
eWARDS ARROW
p ABOVE ALMOST EQUAL TO
wREVERSE ALMOST EQUAL TO
beTILDE OPERATOR
wSHORT RIGHTWARDS ARROW
wTILDE OPERATOR
rND UPPER AND LOWER ONE EIGHTH BLOCK
qFROM BAR
y TO BLACK DIAMOND
qOVER RIGHTWARDS ARROW
qTHROUGH LESS-THAN
ySUBSET
yX
rO BAR
w OVER RIGHTWARDS ARROW TO BAR
uLACK DIAMOND
qWITH DOTTED STEM
xUBLE VERTICAL STROKE
vEQUILATERAL ARROWHEAD
vHOOK
vLARGE TRIANGLE ARROWHEAD
wOOP
vMEDIUM TRIANGLE ARROWHEAD
vNOTCHED TAIL
vPLUS BELOW
vSMALL EQUILATERAL ARROWHEAD
bbTRIANGLE ARROWHEAD
wTROKE
vTAIL
z WITH DOUBLE VERTICAL STROKE
bfVERTICAL STROKE
wIP DOWNWARDS
zUPWARDS
vVERTICAL STROKE
p-TAIL
kBACK-TILTED SHADOWED WHITE ARROW
lLACK ARROW
qCIRCLED WHITE ARROW
lOTTOM-SHADED WHITE ARROW
kCOMPRESSED ARROW
kDASHED ARROW
lOUBLE ARROW
w FROM BAR
xWITH STROKE
bcVERTICAL STROKE
w-TAIL
rDASH ARROW
kFINGER-POST ARROW
lRONT-TILTED SHADOWED WHITE ARROW
kHAND
mRPOON OVER RIGHTWARDS HARPOON
sWITH BARB DOWN ABOVE RIGHTWARDS HARPOON WITH BARB DOWN
bhBELOW LONG DASH
bhFROM BAR
bhTO BAR
bgWARDS
bcUP ABOVE LEFTWARDS HARPOON WITH BARB DOWN
bmONG DASH
blRIGHTWARDS HARPOON WITH BARB UP
bfFROM BAR
bfTO BAR
beWARDS
lEAVY ARROW
qCOMPRESSED ARROW
kLEFT-SHADED WHITE ARROW
kOPEN-HEADED ARROW
kPAIRED ARROWS
kQUADRUPLE ARROW
kRIGHT-SHADED WHITE ARROW
lOCKET
kSANS-SERIF ARROW
lQUARED ARROW
nIGGLE ARROW
kTOP SHADED WHITE ARROW
lRIANGLE ARROWHEAD
s-HEADED ARROW
bf OVER RIGHTWARDS TRIANGLE-HEADED ARROW
bgTO BAR
bgWITH BOLD SHAFT
blDOUBLE HORIZONTAL STROKE
bsVERTICAL STROKE
blHEAVY SHAFT
blLONG TIP DOWNWARDS
buUPWARDS
blMEDIUM SHAFT
blNARROW SHAFT
blVERY HEAVY SHAFT
baDASHED ARROW
baPAIRED ARROWS
nPLE ARROW
rDASH ARROW
lWO HEADED ARROW
n-HEADED ARROW FROM BAR
bbWITH DOUBLE VERTICAL STROKE
bgTAIL
bk WITH DOUBLE VERTICAL STROKE
bqVERTICAL STROKE
bhRIANGLE ARROWHEADS
bgVERTICAL STROKE
vTRIPLE DASH ARROW
kWAVE ARROW
lHITE ARROW
v WITHIN TRIANGLE ARROWHEAD
cG
cMON
cO
dPARD
cPCHA CONSONANT SIGN K
xANG
wL
wM
wN
xYIN-DO
wP
wR
wT
hDIGIT EIGHT
nFIVE
oOUR
nNINE
nONE
nSEVEN
oIX
nTHREE
oWO
nZERO
hLETTER A
oBA
pLA
oCA
pHA
oDA
pDA
pZA
oFA
pLA
oGA
pLA
oHA
pLA
oJA
oKA
pHA
pLA
oLA
oMA
pLA
oNA
pGA
pYA
oPA
pHA
pLA
oRA
oSA
pHA
oTA
pHA
pSA
qHA
pTA
qHA
oVA
oWA
oYA
hPUNCTUATION CER-WA
tNYET THYOOM TA-ROL
tTA-ROL
uSHOOK
z CER-WA
hSIGN NUKTA
mRAN
iUBJOINED LETTER RA
yYA
hVOWEL SIGN AA
sE
sI
sO
tO
sU
tU
cSS-THAN ABOVE DOUBLE-LINE EQUAL ABOVE GREATER-THAN
qGREATER-THAN ABOVE DOUBLE-LINE EQUAL
qLEFTWARDS ARROW
qSIMILAR ABOVE GREATER-THAN
yOR EQUAL
rLANTED EQUAL ABOVE GREATER-THAN ABOVE SLANTED EQUAL
lND NOT APPROXIMATE
oSINGLE-LINE NOT EQUAL TO
kBUT NOT EQUAL TO
vIVALENT TO
kCLOSED BY CURVE
z ABOVE SLANTED EQUAL
kEQUAL TO OR GREATER-THAN
kOR APPROXIMATE
nEQUAL TO
qIVALENT TO
nGREATER-THAN
nSLANTED EQUAL TO
bd WITH DOT ABOVE
bs RIGHT
bnINSIDE
lVER EQUAL TO
kSIGN
kWITH CIRCLE INSIDE
pDOT
pQUESTION MARK ABOVE
cVEL SLIDER
bF
bIBRA
cGATURE OPEN ET ORNAMENT
dHT CHECK MARK
gEIGHT SPOKED ASTERISK
gFIVE POINTED BLACK STAR
lSPOKED ASTERISK
hOUR POINTED BLACK CUSP
zSTAR
gGREEK CROSS
gLEFT TORTOISE SHELL BRACKET ORNAMENT
gRAIL
hIGHT TORTOISE SHELL BRACKET ORNAMENT
gSALTIRE
hHADE
hIX SPOKED ASTERISK
gTHREE POINTED BLACK STAR
hWELVE POINTED BLACK STAR
gVERTICAL BAR
gWHITE SQUARE
fNING
j MOOD
o BUBBLE
cMBU DIGIT EIGHT
mFIVE
nOUR
mNINE
mONE
mSEVEN
nIX
mTHREE
nWO
mZERO
gEXCLAMATION MARK
gLETTER BA
oHA
nCA
oHA
nDA
oHA
nGA
oHA
oYAN
nHA
nJA
oHA
nKA
oHA
nLA
nMA
nNA
oGA
nPA
oHA
nRA
nSA
oHA
oSA
nTA
oHA
oRA
nWA
nYA
pN
gQUESTION MARK
gSIGN KEMPHRENG
lLOO
lMUKPHRENG
lSA-I
hMALL LETTER ANUSVARA
tKA
tLA
tMA
tNA
uGA
tPA
tRA
tTA
hUBJOINED LETTER RA
xWA
xYA
gVOWEL SIGN A
sI
sU
rE
sE
rI
rO
sO
rU
l-CARRIER LETTER
dITED LIABILITY SIGN
cNE FEED
fINTEGRATION NOT INCLUDING THE POLE
rWITH RECTANGULAR PATH AROUND POLE
wSEMICIRCULAR PATH AROUND POLE
fSEPARATOR
fTABULATION
p SET
eAR A SIGN A028B
p100-102
q20B
q31C
p301
r2
r3
r4
r5
r6
r7
r8
r9A
sB
sC
q10
r1
r2
r3A
sB
sC
r4
r5
r6
r7
r8
r9
q20
r1
r2
r3
r4
r5
r6
r7
r8
r9
q30
r1
r2
r3
r4
r5
r6
r7
r8
r9
q40
r1
r2
r3
r4
r5
r6
r7
r8
r9
q50
r1
r2
r3
r4
r5
r6
r7
r8
r9
q60
r1
r2
r3
r4
r5
r6
r7
r8
r9
q70
r1
p400-VAS
r1-VAS
r2-VAS
r3-VAS
r4-VAS
r5-VAS
r6-VAS
r7-VAS
r8-VAS
r9-VAS
q10-VAS
r1-VAS
r2-VAS
r3-VAS
r4-VAS
r5-VAS
r6-VAS
r7-VAS
r8-VAS
p501
r2
r3
r4
r5
r6
r8
r9
q10
r1
r2
r3
r5
r6
q20
r1
r3
r4
r5
r6
r7
r8
r9
q30
r1
r2
r4
r5
r6
r7
r8
r9
q40
r1
r2
r5
r7
r8
r9
q50
r1
r2
r3
r4
r5
r6
r7
r9
q63
r4
r5
r6
r8
r9
q70
r1
r2
r3
r4
r5
r6
r7
r8
r9
q80
r1
r2
r3
r4
r5
r6
r7
r8
r9
q91
r2
r4
r5
r6
r8
p600
r1
r2
r3
r4
r6
r8
r9
q10
r1
r2
r3
r4
r5
r6
r7
r8
r9
q20
r1
r2
r3
r4
r6
r7
r8
r9
q34
r7
r8
q40
r2
r3
r4
r5
r6
r8
r9
q51
r2
r3
r4
r5
r6
r7
r8
r9
q60
r1
r2
r3
r4
p701 A
r2 B
r3 D
r4 E
r5 F
r6 H
r7 J
r8 K
r9 L
s-2 L2
t3 L3
t4 L4
t6 L6
q10 W
r1 X
r2 Y
r3 OMEGA
r4 ABB
r5 BB
r7 DD
q26 EYYY
q32 JE
p800
r1
r2
r3
r4
r5
r6
r7
pB001
s2
s3
s4
s5
s6
s7
s8
s9
r10
s1
s3
s6
s7
r20
s1
tF
tM
s2
tF
tM
s3
tM
s4
s6
s7
s8
s9
r30
s1
s4
s7
s8
s9
r40
s1
s4
s5
s6
s7
s8
s9
r50
s1
s3
s4
s5
s6
s7
s8
s9
r60
s1
s5
s6
s7
s9
r70
s3
s4
s6
s7
s8
s9
r80
s1
s2
s5
s6
s7
q118
r20
s2
s3
r31A
tB
r64
r71
r80
s8
r91
hB IDEOGRAM B100 MAN
v2 WOMAN
v4 DEER
v5 EQUID
wF MARE
wM STALLION
v6F EWE
wM RAM
v7F SHE-GOAT
wM HE-GOAT
v8F SOW
wM BOAR
v9F COW
wM BULL
u20 WHEAT
v1 BARLEY
v2 OLIVE
v3 SPICE
v5 CYPERUS
u30 OIL
v1 WINE
v2
u40 BRONZE
v1 GOLD
v2
v5 WOOL
v6
u50
v1 HORN
v2
v3
v4
v7
v8
v9 CLOTH
u60
v1
v2 GARMENT
v3 ARMOUR
v4
v5
v6
v7
v8
v9
u70
v1
v2
v3 MONTH
v4
v6 TREE
v7
v8
v9
u80
v1
v2
v3
v4
v5
v9
u90
v1 HELMET
t220 FOOTSTOOL
v5 BATHTUB
u30 SPEAR
v1 ARROW
v2
v3 SWORD
v4
v6
u40 WHEELED CHARIOT
v1 CHARIOT
v2 CHARIOT FRAME
v3 WHEEL
v5
v6
v8
v9
u51
v2
v3
v4 DART
v5
v6
v7
v8
v9
sVESSEL B155
ba200
bc1
bc2
bc3
bc4
bc5
bc6
bc7
bc8
bc9
bb10
bc1
bc2
bc3
bc4
bc5
bc6
bc7
bc8
bc9
bb21
bc2
bc6
bc7
bc8
bc9
bb50
ba305
jMONOGRAM B127 KAPO
v8 KANAKO
u33 AREPA
v5 MERI
u56 TURO2
t247 DIPTE
jSYLLABLE B001 DA
v2 RO
v3 PA
v4 TE
v5 TO
v6 NA
v7 DI
v8 A
v9 SE
u10 U
v1 PO
v2 SO
v3 ME
v4 DO
v5 MO
v6 QA
v7 ZA
u20 ZO
v1 QI
v3 MU
v4 NE
v5 A2
v6 RU
v7 RE
v8 I
v9 PU2
u30 NI
v1 SA
v2 QO
v3 RA3
v6 JO
v7 TI
v8 E
v9 PI
u40 WI
v1 SI
v2 WO
v3 A3
v4 KE
v5 DE
v6 JE
v8 NWA
u50 PU
v1 DU
v2 NO
v3 RI
v4 WA
v5 NU
v7 JA
v8 SU
v9 TA
u60 RA
v1 O
v2 PTE
v5 JU
v6 TA2
v7 KI
v8 RO2
v9 TU
u70 KO
v1 DWE
v2 PE
v3 MI
v4 ZE
v5 WE
v6 RA2
v7 KA
v8 QE
u80 MA
v1 KU
v5 AU
v7 TWE
u90 DWO
v1 TWO
lMBOL B018
t9
s22
s34
s47
t9
s56
s63
t4
s79
s82
t3
t6
t9
dK SYMBOL
eED PAPERCLIPS
cON FACE
cPS
eTICK
cRA SIGN
cSU LETTER A
nE
mBA
mCA
nHA
mDA
nZA
mE
nU
mFA
mGA
nHA
mHA
nHA
mI
mJA
mKA
nHA
mLA
mMA
mNA
nGA
mO
nE
mPA
nHA
mSA
nHA
mTA
nHA
nONE MYA BO
vCYA
vJEU
vNA
vTI
rNA PO
nSA
oHA
mU
nE
nH
mWA
mXA
mYA
nHA
mZA
nHA
fPUNCTUATION COMMA
rFULL STOP
cVRE TOURNOIS SIGN
cZARD
bLAMA
bOBSTER
cCK
e WITH INK PEN
eING-SHIFT ONE
oZERO
cGICAL AND
l WITH DOT ABOVE
tUBLE OVERBAR
yUNDERBAR
rHORIZONTAL DASH
rMIDDLE STEM
rUNDERBAR
iOR
k OVERLAPPING LOGICAL AND
lWITH DOT ABOVE
sUBLE OVERBAR
xUNDERBAR
qHORIZONTAL DASH
qMIDDLE STEM
cLLIPOP
cNG DASH FROM LEFT MEMBER OF DOUBLE VERTICAL
gIVISION
gRUM
fLEFT RIGHT ARROW
qDOUBLE ARROW
kTACK
jWARDS ARROW
u FROM BAR
pDOUBLE ARROW
bb FROM BAR
pSQUIGGLE ARROW
fRIGHT TACK
kWARDS ARROW
v FROM BAR
qDOUBLE ARROW
bc FROM BAR
qSQUIGGLE ARROW
cTION BOTTLE
dUS
cUDLY CRYING FACE
cVE HOTEL
fLETTER
cW ASTERISK
eBATTERY
fRIGHTNESS SYMBOL
eDOUBLE PRIME QUOTATION MARK
eKAVYKA
k WITH DOT
eLINE
dER BLADE SCISSORS
gFIVE EIGHTHS BLOCK
gHALF BLOCK
lCIRCLE
lINVERSE WHITE CIRCLE
lMEDIUM SHADE
gLEFT BALLPOINT PEN
mLOCK DIAGONAL LOWER MIDDLE LEFT TO LOWER CENTRE
cbRIGHT
baUPPER CENTRE TO LOWER MIDDLE RIGHT
bwRIGHT
bqUPPER MIDDLE RIGHT
bgLEFT TO LOWER CENTRE
buMIDDLE RIGHT
boUPPER MIDDLE RIGHT
bgMIDDLE LEFT TO LOWER CENTRE
cbMIDDLE RIGHT
cbRIGHT
lCRAYON
lFOUNTAIN PEN
lPAINTBRUSH
mENCIL
lQUADRANT CIRCULAR ARC
lSEMICIRCULAR ANTICLOCKWISE ARROW
lTRIANGLE
rULAR MEDIUM SHADE
gONE EIGHTH BLOCK
kQUARTER BLOCK
gRIGHT BLOCK DIAGONAL LOWER CENTRE TO LOWER MIDDLE RIGHT
brUPPER MIDDLE RIGHT
bxRIGHT
bhLEFT TO LOWER MIDDLE RIGHT
bpUPPER CENTRE
bvMIDDLE RIGHT
bhMIDDLE LEFT TO UPPER CENTRE
ccMIDDLE RIGHT
ccRIGHT
bbUPPER MIDDLE LEFT TO UPPER CENTRE
ccRIGHT
mCORNER WITH DOT
mDROP-SHADOWED WHITE SQUARE
mPENCIL
mQUADRANT CIRCULAR ARC
mSEMICIRCULAR CLOCKWISE ARROW
nHADOWED WHITE CIRCLE
bbSQUARE
mTRIANGLE
sULAR MEDIUM SHADE
gSEVEN EIGHTHS BLOCK
gTHREE EIGHTHS BLOCK
mQUARTERS BLOCK
hRIANGULAR ONE QUARTER BLOCK
cZENGE
h DIVIDED BY HORIZONTAL RULE
bRE
cI
cM
cO
bUGGAGE
cNGS
bYCIAN LETTER A
pN
oB
pH
oD
oE
pN
oG
oH
oI
oJ
oK
pK
oL
oM
pM
oN
pN
oP
oQ
oR
oS
oT
pH
pT
oU
oW
oX
oZ
cDIAN LETTER A
pN
oB
oC
oD
oE
pN
oF
oG
oI
oK
oL
pY
oM
oN
pN
oO
oQ
oR
oS
pS
oT
pT
oU
oV
oY
hTRIANGULAR MARK
cING FACE
aMACRON
cGE
dIC WAND
dNET
cHAJANI ABBREVIATION SIGN
jLETTER A
qBA
rHA
qCA
rHA
qDA
rDA
sHA
rHA
qE
qGA
rHA
qHA
qI
qJA
rHA
qKA
rHA
qLA
qMA
qNA
rNA
rYA
qO
qPA
rHA
qRA
rRA
qSA
qTA
rHA
rTA
sHA
qU
qVA
kIGATURE SHRI
jSECTION MARK
kIGN NUKTA
dJONG TILE AUTUMN
nBACK
pMBOO
nCHRYSANTHEMUM
nEAST WIND
oIGHT OF BAMBOOS
wCHARACTERS
xIRCLES
nFIVE OF BAMBOOS
vCHARACTERS
wIRCLES
oOUR OF BAMBOOS
vCHARACTERS
wIRCLES
nGREEN DRAGON
nJOKER
nNINE OF BAMBOOS
vCHARACTERS
wIRCLES
oORTH WIND
nONE OF BAMBOOS
uCHARACTERS
vIRCLES
oRCHID
nPLUM
nRED DRAGON
nSEVEN OF BAMBOOS
wCHARACTERS
xIRCLES
oIX OF BAMBOOS
uCHARACTERS
vIRCLES
oOUTH WIND
oPRING
oUMMER
nTHREE OF BAMBOOS
wCHARACTERS
xIRCLES
oWO OF BAMBOOS
uCHARACTERS
vIRCLES
nWEST WIND
oHITE DRAGON
oINTER
cKASAR ANGKA
iEND OF SECTION
iLETTER A
pBA
pCA
pDA
pGA
pJA
pKA
pLA
pMA
pNA
qGA
qYA
pPA
pRA
pSA
pTA
pVA
pYA
iPASSIMBANG
iVOWEL SIGN E
tI
tO
tU
cLAYALAM AU LENGTH MARK
kDATE MARK
lIGIT EIGHT
qFIVE
rOUR
qNINE
qONE
qSEVEN
rIX
qTHREE
rWO
qZERO
kFRACTION ONE EIGHTH
xFIFTH
yORTIETH
xHALF
xONE-HUNDRED-AND-SIXTIETH
xQUARTER
xSIXTEENTH
xTENTH
yWENTIETH
tTHREE EIGHTIETHS
zQUARTERS
zSIXTEENTHS
zTWENTIETHS
kLETTER A
sA
sI
sRCHAIC II
sU
rBA
sHA
rCA
sHA
tILLU K
yL
zL
baL
yM
yN
zN
yRR
yY
rDA
sDA
tHA
sHA
sOT REPH
rE
sE
rGA
sHA
rHA
rI
sI
rJA
sHA
rKA
sHA
rLA
sLA
tLA
rMA
rNA
sGA
sNA
tNA
sYA
rO
sO
rPA
sHA
rRA
sRA
rSA
sHA
sSA
rTA
sHA
sTA
tHA
tTA
rU
sU
rVA
sEDIC ANUSVARA
sOCALIC L
baL
zR
baR
rYA
kNUMBER ONE HUNDRED
vTHOUSAND
rTEN
kSIGN ANUSVARA
qVAGRAHA
pCANDRABINDU
qIRCULAR VIRAMA
qOMBINING ANUSVARA ABOVE
pPARA
pVERTICAL BAR VIRAMA
qIRAMA
rSARGA
kVOWEL SIGN AA
wI
wU
vE
wE
vI
wI
vO
wO
vU
wU
vVOCALIC L
beL
bdR
beR
dE AND FEMALE SIGN
fSIGN
fWITH STROKE AND MALE AND FEMALE SIGN
rSIGN
dTESE CROSS
cMMOTH
cN
d AND WOMAN HOLDING HANDS
eDANCING
eIN BUSINESS SUIT LEVITATING
hTUXEDO
eWITH GUA PI MAO
jTURBAN
dAT SIGN
dDAIC AFFRICATION MARK
iGEMINATION MARK
iLETTER AB
qD
qG
qH
qIN
qK
rSA
qL
qM
qN
qP
qQ
qR
qS
rH
rZ
qT
rT
qZ
pDUSHENNA
pHALQA
pIN
qT
pKAD
pUSHENNA
iPUNCTUATION
iVOCALIZATION MARK
dGO
dICHAEAN ABBREVIATION MARK ABOVE
bdBELOW
lLETTER AAYIN
tLEPH
tYIN
sBETH
tHETH
sDALETH
tHAMEDH
sFE
sGHIMEL
tIMEL
sHE
uTH
sJAYIN
tHAYIN
sKAPH
tHAPH
sLAMEDH
sMEM
sNUN
sPE
sQHOPH
tOPH
sRESH
sSADHE
uMEKH
tHIN
tSHIN
sTAW
tETH
tHAMEDH
sWAW
sXAPH
tOPH
sYODH
sZAYIN
tHAYIN
lNUMBER FIVE
sONE
v HUNDRED
sTEN
tWENTY
lPUNCTUATION DOT
ba WITHIN DOT
zUBLE DOT WITHIN DOT
xFLEURON
xLINE FILLER
xSTAR
xTWO DOTS
lSIGN UD
dS SHOE
dTELPIECE CLOCK
dUAL WHEELCHAIR
cP SYMBOL FOR LIGHTHOUSE
dLE LEAF
cRCHEN HEAD MARK
iLETTER -A
pA
pBA
pCA
qHA
pDA
qZA
pGA
pHA
pJA
pKA
qHA
pLA
pMA
pNA
qGA
qYA
pPA
qHA
pRA
pSA
qHA
pTA
qHA
qSA
rHA
pWA
pYA
pZA
qHA
iMARK SHAD
iSIGN ANUSVARA
nCANDRABINDU
jUBJOINED LETTER A
zBA
zCA
baHA
zDA
baZA
zGA
zHA
zJA
zKA
baHA
zLA
zMA
zNA
baGA
baYA
zPA
baHA
zRA
zSA
baHA
zTA
baHA
baSA
bbHA
zWA
zYA
zZA
baHA
iVOWEL SIGN AA
tE
tI
tO
tU
dRIAGE SYMBOL
dTIAL ARTS UNIFORM
cSARAM GONDI DIGIT EIGHT
uFIVE
vOUR
uNINE
uONE
uSEVEN
vIX
uTHREE
vWO
uZERO
oLETTER A
wA
wI
wU
vBA
wHA
vCA
wHA
vDA
wDA
xHA
wHA
vE
vGA
wHA
vHA
vI
wI
vJA
wHA
wNYA
vKA
wHA
wSSA
vLA
wLA
vMA
vNA
wGA
wNA
wYA
vO
vPA
wHA
vRA
vSA
wHA
wSA
vTA
wHA
wRA
wTA
xHA
vU
wU
vVA
vYA
oRA-KARA
pEPHA
oSIGN ANUSVARA
tCANDRA
tHALANTA
tNUKTA
tVISARGA
oVIRAMA
pOWEL SIGN AA
baI
baU
zE
zI
baI
zO
zU
baU
zVOCALIC R
dCULINE ORDINAL INDICATOR
dK WORK SYMBOL
dU MARK
cTE DRINK
dHEMATICAL BOLD CAPITAL A
bbLPHA
baB
bbETA
baC
bbHI
baD
bbELTA
bbIGAMMA
baE
bbPSILON
bbTA
baF
baG
bbAMMA
baH
baI
bbOTA
baJ
baK
bbAPPA
baL
bbAMDA
baM
bbU
baN
bbU
baO
bbMEGA
bcICRON
baP
bbHI
bbI
bbSI
baQ
baR
bbHO
baS
bbIGMA
baT
bbAU
bbHETA
bf SYMBOL
baU
bbPSILON
baV
baW
baX
bbI
baY
baZ
bbETA
sDIGIT EIGHT
yFIVE
zOUR
yNINE
yONE
ySEVEN
zIX
yTHREE
zWO
yZERO
sEPSILON SYMBOL
sFRAKTUR CAPITAL A
biB
biC
biD
biE
biF
biG
biH
biI
biJ
biK
biL
biM
biN
biO
biP
biQ
biR
biS
biT
biU
biV
biW
biX
biY
biZ
baSMALL A
bgB
bgC
bgD
bgE
bgF
bgG
bgH
bgI
bgJ
bgK
bgL
bgM
bgN
bgO
bgP
bgQ
bgR
bgS
bgT
bgU
bgV
bgW
bgX
bgY
bgZ
sITALIC CAPITAL A
biLPHA
bhB
biETA
bhC
biHI
bhD
biELTA
bhE
biPSILON
biTA
bhF
bhG
biAMMA
bhH
bhI
biOTA
bhJ
bhK
biAPPA
bhL
biAMDA
bhM
biU
bhN
biU
bhO
biMEGA
bjICRON
bhP
biHI
biI
biSI
bhQ
bhR
biHO
bhS
biIGMA
bhT
biAU
biHETA
bm SYMBOL
bhU
biPSILON
bhV
bhW
bhX
biI
bhY
bhZ
biETA
zEPSILON SYMBOL
zKAPPA SYMBOL
zNABLA
zPARTIAL DIFFERENTIAL
baHI SYMBOL
baI SYMBOL
zRHO SYMBOL
zSMALL A
bgLPHA
bfB
bgETA
bfC
bgHI
bfD
bgELTA
bfE
bgPSILON
bgTA
bfF
bgINAL SIGMA
bfG
bgAMMA
bfH
bfI
bgOTA
bfJ
bfK
bgAPPA
bfL
bgAMDA
bfM
bgU
bfN
bgU
bfO
bgMEGA
bhICRON
bfP
bgHI
bgI
bgSI
bfQ
bfR
bgHO
bfS
bgIGMA
bfT
bgAU
bgHETA
bfU
bgPSILON
bfV
bfW
bfX
bgI
bfY
bfZ
bgETA
zTHETA SYMBOL
sKAPPA SYMBOL
sNABLA
sPARTIAL DIFFERENTIAL
tHI SYMBOL
tI SYMBOL
sRHO SYMBOL
sSCRIPT CAPITAL A
bhB
bhC
bhD
bhE
bhF
bhG
bhH
bhI
bhJ
bhK
bhL
bhM
bhN
bhO
bhP
bhQ
bhR
bhS
bhT
bhU
bhV
bhW
bhX
bhY
bhZ
zSMALL A
bfB
bfC
bfD
bfE
bfF
bfG
bfH
bfI
bfJ
bfK
bfL
bfM
bfN
bfO
bfP
bfQ
bfR
bfS
bfT
bfU
bfV
bfW
bfX
bfY
bfZ
tMALL A
zLPHA
yB
zETA
yC
zHI
yD
zELTA
zIGAMMA
yE
zPSILON
zTA
yF
zINAL SIGMA
yG
zAMMA
yH
yI
zOTA
yJ
yK
zAPPA
yL
zAMDA
yM
zU
yN
zU
yO
zMEGA
baICRON
yP
zHI
zI
zSI
yQ
yR
zHO
yS
zIGMA
yT
zAU
zHETA
yU
zPSILON
yV
yW
yX
zI
yY
yZ
zETA
sTHETA SYMBOL
nDOUBLE-STRUCK CAPITAL A
bjB
bjD
bjE
bjF
bjG
bjI
bjJ
bjK
bjL
bjM
bjO
bjS
bjT
bjU
bjV
bjW
bjX
bjY
bbDIGIT EIGHT
bhFIVE
biOUR
bhNINE
bhONE
bhSEVEN
biIX
bhTHREE
biWO
bhZERO
bbSMALL A
bhB
bhC
bhD
bhE
bhF
bhG
bhH
bhI
bhJ
bhK
bhL
bhM
bhN
bhO
bhP
bhQ
bhR
bhS
bhT
bhU
bhV
bhW
bhX
bhY
bhZ
nFALLING DIAGONAL
oRAKTUR CAPITAL A
bdB
bdD
bdE
bdF
bdG
bdJ
bdK
bdL
bdM
bdN
bdO
bdP
bdQ
bdS
bdT
bdU
bdV
bdW
bdX
bdY
vSMALL A
bbB
bbC
bbD
bbE
bbF
bbG
bbH
bbI
bbJ
bbK
bbL
bbM
bbN
bbO
bbP
bbQ
bbR
bbS
bbT
bbU
bbV
bbW
bbX
bbY
bbZ
nITALIC CAPITAL A
bdLPHA
bcB
bdETA
bcC
bdHI
bcD
bdELTA
bcE
bdPSILON
bdTA
bcF
bcG
bdAMMA
bcH
bcI
bdOTA
bcJ
bcK
bdAPPA
bcL
bdAMDA
bcM
bdU
bcN
bdU
bcO
bdMEGA
beICRON
bcP
bdHI
bdI
bdSI
bcQ
bcR
bdHO
bcS
bdIGMA
bcT
bdAU
bdHETA
bh SYMBOL
bcU
bdPSILON
bcV
bcW
bcX
bdI
bcY
bcZ
bdETA
uEPSILON SYMBOL
uKAPPA SYMBOL
uNABLA
uPARTIAL DIFFERENTIAL
vHI SYMBOL
vI SYMBOL
uRHO SYMBOL
uSMALL A
bbLPHA
baB
bbETA
baC
bbHI
baD
bbELTA
bbOTLESS I
biJ
baE
bbPSILON
bbTA
baF
bbINAL SIGMA
baG
bbAMMA
baI
bbOTA
baJ
baK
bbAPPA
baL
bbAMDA
baM
bbU
baN
bbU
baO
bbMEGA
bcICRON
baP
bbHI
bbI
bbSI
baQ
baR
bbHO
baS
bbIGMA
baT
bbAU
bbHETA
baU
bbPSILON
baV
baW
baX
bbI
baY
baZ
bbETA
uTHETA SYMBOL
nLEFT ANGLE BRACKET
sDOUBLE ANGLE BRACKET
sFLATTENED PARENTHESIS
sWHITE SQUARE BRACKET
yTORTOISE SHELL BRACKET
nMONOSPACE CAPITAL A
bfB
bfC
bfD
bfE
bfF
bfG
bfH
bfI
bfJ
bfK
bfL
bfM
bfN
bfO
bfP
bfQ
bfR
bfS
bfT
bfU
bfV
bfW
bfX
bfY
bfZ
xDIGIT EIGHT
bdFIVE
beOUR
bdNINE
bdONE
bdSEVEN
beIX
bdTHREE
beWO
bdZERO
xSMALL A
bdB
bdC
bdD
bdE
bdF
bdG
bdH
bdI
bdJ
bdK
bdL
bdM
bdN
bdO
bdP
bdQ
bdR
bdS
bdT
bdU
bdV
bdW
bdX
bdY
bdZ
nRIGHT ANGLE BRACKET
tDOUBLE ANGLE BRACKET
tFLATTENED PARENTHESIS
tWHITE SQUARE BRACKET
zTORTOISE SHELL BRACKET
pSING DIAGONAL
nSANS-SERIF BOLD CAPITAL A
bmLPHA
blB
bmETA
blC
bmHI
blD
bmELTA
blE
bmPSILON
bmTA
blF
blG
bmAMMA
blH
blI
bmOTA
blJ
blK
bmAPPA
blL
bmAMDA
blM
bmU
blN
bmU
blO
bmMEGA
bnICRON
blP
bmHI
bmI
bmSI
blQ
blR
bmHO
blS
bmIGMA
blT
bmAU
bmHETA
bq SYMBOL
blU
bmPSILON
blV
blW
blX
bmI
blY
blZ
bmETA
bdDIGIT EIGHT
bjFIVE
bkOUR
bjNINE
bjONE
bjSEVEN
bkIX
bjTHREE
bkWO
bjZERO
bdEPSILON SYMBOL
bdITALIC CAPITAL A
btLPHA
bsB
btETA
bsC
btHI
bsD
btELTA
bsE
btPSILON
btTA
bsF
bsG
btAMMA
bsH
bsI
btOTA
bsJ
bsK
btAPPA
bsL
btAMDA
bsM
btU
bsN
btU
bsO
btMEGA
buICRON
bsP
btHI
btI
btSI
bsQ
bsR
btHO
bsS
btIGMA
bsT
btAU
btHETA
bx SYMBOL
bsU
btPSILON
bsV
bsW
bsX
btI
bsY
bsZ
btETA
bkEPSILON SYMBOL
bkKAPPA SYMBOL
bkNABLA
bkPARTIAL DIFFERENTIAL
blHI SYMBOL
blI SYMBOL
bkRHO SYMBOL
bkSMALL A
brLPHA
bqB
brETA
bqC
brHI
bqD
brELTA
bqE
brPSILON
brTA
bqF
brINAL SIGMA
bqG
brAMMA
bqH
bqI
brOTA
bqJ
bqK
brAPPA
bqL
brAMDA
bqM
brU
bqN
brU
bqO
brMEGA
bsICRON
bqP
brHI
brI
brSI
bqQ
bqR
brHO
bqS
brIGMA
bqT
brAU
brHETA
bqU
brPSILON
bqV
bqW
bqX
brI
bqY
bqZ
brETA
bkTHETA SYMBOL
bdKAPPA SYMBOL
bdNABLA
bdPARTIAL DIFFERENTIAL
beHI SYMBOL
beI SYMBOL
bdRHO SYMBOL
bdSMALL A
bkLPHA
bjB
bkETA
bjC
bkHI
bjD
bkELTA
bjE
bkPSILON
bkTA
bjF
bkINAL SIGMA
bjG
bkAMMA
bjH
bjI
bkOTA
bjJ
bjK
bkAPPA
bjL
bkAMDA
bjM
bkU
bjN
bkU
bjO
bkMEGA
blICRON
bjP
bkHI
bkI
bkSI
bjQ
bjR
bkHO
bjS
bkIGMA
bjT
bkAU
bkHETA
bjU
bkPSILON
bjV
bjW
bjX
bkI
bjY
bjZ
bkETA
bdTHETA SYMBOL
yCAPITAL A
bgB
bgC
bgD
bgE
bgF
bgG
bgH
bgI
bgJ
bgK
bgL
bgM
bgN
bgO
bgP
bgQ
bgR
bgS
bgT
bgU
bgV
bgW
bgX
bgY
bgZ
yDIGIT EIGHT
beFIVE
bfOUR
beNINE
beONE
beSEVEN
bfIX
beTHREE
bfWO
beZERO
yITALIC CAPITAL A
bnB
bnC
bnD
bnE
bnF
bnG
bnH
bnI
bnJ
bnK
bnL
bnM
bnN
bnO
bnP
bnQ
bnR
bnS
bnT
bnU
bnV
bnW
bnX
bnY
bnZ
bfSMALL A
blB
blC
blD
blE
blF
blG
blH
blI
blJ
blK
blL
blM
blN
blO
blP
blQ
blR
blS
blT
blU
blV
blW
blX
blY
blZ
ySMALL A
beB
beC
beD
beE
beF
beG
beH
beI
beJ
beK
beL
beM
beN
beO
beP
beQ
beR
beS
beT
beU
beV
beW
beX
beY
beZ
oCRIPT CAPITAL A
bcC
bcD
bcG
bcJ
bcK
bcN
bcO
bcP
bcQ
bcS
bcT
bcU
bcV
bcW
bcX
bcY
bcZ
uSMALL A
baB
baC
baD
baF
baH
baI
baJ
baK
baL
baM
baN
baP
baQ
baR
baS
baT
baU
baV
baW
baX
baY
baZ
cXIMIZE
cYAN NUMERAL EIGHT
tEEN
pLEVEN
oFIFTEEN
qVE
pOUR
sTEEN
oNINE
sTEEN
oONE
oSEVEN
tTEEN
pIX
rTEEN
oTEN
pHIRTEEN
qREE
pWELVE
qO
oZERO
bEASURED ANGLE
o OPENING LEFT
pWITH OPEN ARM ENDING IN ARROW POINTING DOWN AND LEFT
clRIGHT
ccLEFT AND DOWN
clUP
ccRIGHT AND DOWN
cmUP
ccUP AND LEFT
cjRIGHT
jBY
jRIGHT ANGLE WITH DOT
dT ON BONE
cCHANICAL ARM
lLEG
cDEFAIDRIN CAPITAL LETTER A
bcI
bcTIU
bbB
bbC
bbD
bbE
bbF
bbG
bbH
bcP
bbI
bbJ
bbK
bcP
bbL
bbM
bbN
bcG
bcY
bbO
bcE
bbP
bbQ
bbR
bbS
bbT
bbU
bbV
bbW
bbX
bbY
bcU
bbZ
nOMMA
mDIGIT EIGHT
sFIVE
tOUR
sNINE
sONE
v ALTERNATE FORM
sSEVEN
tIX
sTHREE
x ALTERNATE FORM
tWO
v ALTERNATE FORM
sZERO
mEXCLAMATION OH
mFULL STOP
mNUMBER EIGHTEEN
uLEVEN
tFIFTEEN
uOURTEEN
tNINETEEN
tSEVENTEEN
uIXTEEN
tTEN
uHIRTEEN
uWELVE
mSMALL LETTER A
baI
baTIU
zB
zC
zD
zE
zF
zG
zH
baP
zI
zJ
zK
baP
zL
zM
zN
baG
baY
zO
baE
zP
zQ
zR
zS
zT
zU
zV
zW
zX
zY
baU
zZ
nYMBOL AIVA
dIEVAL COMMA
jEXCLAMATION MARK
jQUESTION MARK
eUM BLACK CIRCLE
iOLD WHITE CIRCLE
hEIGHT POINTED BLACK STAR
nSPOKED ASTERISK
hFIVE SPOKED ASTERISK
iLATTENED LEFT PARENTHESIS ORNAMENT
rRIGHT PARENTHESIS ORNAMENT
iOUR POINTED BLACK STAR
uPINWHEEL STAR
hGREEK CROSS
hLEFT CURLY BRACKET ORNAMENT
mPARENTHESIS ORNAMENT
l-POINTING ANGLE BRACKET ORNAMENT
hMATHEMATICAL SPACE
hRIGHT CURLY BRACKET ORNAMENT
nPARENTHESIS ORNAMENT
m-POINTING ANGLE BRACKET ORNAMENT
hSALTIRE
iHADE
iIX POINTED BLACK STAR
lSPOKED ASTERISK
iMALL WHITE CIRCLE
hTHREE POINTED BLACK STAR
vPINWHEEL STAR
hVERTICAL BAR
hWHITE CIRCLE
nSQUARE
cETEI MAYEK AHANG KHUDAM
oNJI
oPUN IYEK
nCHEIKHAN
tEI
nDIGIT EIGHT
tFIVE
uOUR
tNINE
tONE
tSEVEN
uIX
tTHREE
uWO
tZERO
nLETTER ATIYA
uBA
vHAM
uCHA
wIL
uDDA
wHA
vHOU
vIL
uE
uGHOU
vOK
uHUK
uI
v LONSUM
uJHAM
vIL
uKHOU
vOK
x LONSUM
uLAI
x LONSUM
uMIT
x LONSUM
uNA
w LONSUM
vGOU
y LONSUM
vNA
vYA
uO
uPA
w LONSUM
vHAM
uRAI
uSAM
vHA
vSA
uTHOU
vIL
x LONSUM
vTA
wHA
uUN
uWAI
uYANG
oUM IYEK
nSYLLABLE REPETITION MARK
nVIRAMA
oOWEL SIGN AAI
baU
zNAP
zU
yCHEINAP
yII
zNAP
yNUNG
yONAP
ySOUNAP
yUNAP
zU
yVISARGA
yYENAP
nWORD REPETITION MARK
cLON
dTING FACE
cMO
cNDE KIKAKUI COMBINING NUMBER HUNDRED THOUSANDS
bmS
bfMILLIONS
bfTEENS
bhN THOUSANDS
biS
bgHOUSANDS
oDIGIT EIGHT
uFIVE
vOUR
uNINE
uONE
uSEVEN
vIX
uTHREE
vWO
oSYLLABLE M001 KI
ba2 KA
ba3 KU
ba4 WI
ba5 WA
ba6 WU
ba7 MIN
ba8 MAN
ba9 MUN
z10 BI
ba1 BA
ba2 BU
ba3 I
ba4 A
ba5 U
ba6 DI
ba7 DA
ba8 DU
ba9 SI
z20 SA
ba1 SU
ba2 TI
ba3 TA
ba4 TU
ba5 LI
ba6 LA
ba7 LU
ba8 JI
ba9 JA
z30 JU
ba1 YI
ba2 YA
ba3 YU
ba4 FI
ba5 FA
ba6 FU
ba7 NIN
ba8 NAN
ba9 NUN
z40 HEE
ba1 HA
ba2 HOO
ba3 NGGA
ba4 KPEE
ba5 WO
ba6 HUAN
ba7 MBEE
ba8 KO
ba9 WVA
z50 PU
ba1 PE
ba2 HEN
ba3 HIN
ba4 LOO
ba5 TE
ba6 GBA
ba7 NGON
ba8 NYAN
ba9 MEN
z60 NYON
ba1 WVI
ba2 MBA
ba3 JO
ba4 NDO
ba5 KEE
ba6 PO
ba7 NDOO
ba8 PI
ba9 TO
z70 GBO
ba1 GBOO
ba2 MBE
ba3 LE
ba4 KPU
ba5 FE
ba6 KOO
ba7 VO
ba8 FEE
ba9 SO
z80 YE
ba1 PEE
ba2 NGGU
ba3 HEEI
ba4 LEE
ba5 VE
ba6 LONG NGGE
ba7 HUN
ba8 FO
ba9 DEE
z90 NGGI
ba1 TEE
ba2 KPA
ba3 GBEE
ba4 MON
ba5 KE
ba6 HE
ba7 BE
ba8 NYEN
ba9 PA
y100 E
ba1 FAN
ba2 POO
ba3 BOO
ba4 TOO
ba5 LONG MBOO
ba6 LONG NGGOO
ba7 GBE
ba8 KPE
ba9 YEE
z10 LONG LE
ba1 GA
ba2 KPOO
ba3 JE
ba4 WOO
ba5 NGGEE
ba6 SE
ba7 NEN
ba8 WE
ba9 NDE
z20 NGGO
ba1 YO
ba2 MBU
ba3 NDI
ba4 GBI
ba5 NDU
ba6 WEE
ba7 NGGUA
ba8 HOOU
ba9 NDA
z30 HAN
ba1 IN
ba2 KPI
ba3 FOO
ba4 NJOO
ba5 IN
ba6 SOO
ba7 EI
ba8 BO
ba9 WVE
z40 HO
ba1 YOO
ba2 LONG MBO
ba3 WEI
ba4 VOO
ba5 MBI
ba6 NGGE
ba7 O
ba8 GBU
ba9 NJEE
z50 BEE
ba1 VU
ba2 NJA
ba3 LO
ba4 MUAN
ba5 GI
ba6 NGGOO
ba7 JEE
ba8 KPO
ba9 NGGAA
z60 JOO
ba1 LONG MBE
ba2 SEE
ba3 EE
ba4 NYIN
ba5 OO
ba6 GUEI
ba7 GUAN
ba8 GU
ba9 NON
z70 NYUN
ba1 RA
ba2 MBOO
ba3 VEE
ba4 MBO
ba5 LONG JO
ba6 HI
ba7 NGUAN
ba8 EN
ba9 KUA
z80 DOO
ba1 DO
ba2 VI
ba3 LONG NGGO
ba4 NGEN
ba5 VA
ba6 HU
ba7 MBUU
ba8 MBEE
ba9 MUEN
z90 GEE
ba1 NDEE
ba2 NJU
ba3 HON
ba4 WUI
ba5 AN
ba6 SIA
ba7 FUA
dORAH WITH NINE BRANCHES
dS SYMBOL
cRCURY
dOITIC CURSIVE FRACTION EIGHT TWELFTHS
bbLEVEN TWELFTHS
baFIVE TWELFTHS
bbOUR TWELFTHS
baNINE TWELFTHS
baONE HALF
beTWELFTH
baSEVEN TWELFTHS
bbIX TWELFTHS
baTEN TWELFTHS
bbHREE TWELFTHS
bbWO TWELFTHS
rLETTER A
zRCHAIC SA
yBA
yDA
yE
yHHA
yI
yKA
zHA
yLA
yMA
yNA
zE
yO
yPA
yQA
yRA
ySA
zE
yTA
zE
zO
yWA
yYA
sOGOGRAM IMN
baRMT
rNUMBER EIGHT
bd HUNDRED
bl THOUSAND
beTHOUSAND
bdY THOUSAND
yFIFTY
bd THOUSAND
baVE
bc HUNDRED
bk THOUSAND
bdTHOUSAND
zORTY
bd THOUSAND
baUR
bc HUNDRED
bk THOUSAND
bdTHOUSAND
yNINE
bc HUNDRED
bk THOUSAND
bdTHOUSAND
bcTY THOUSAND
yONE
bb HUNDRED
bj THOUSAND
bcTHOUSAND
ySEVEN
bd HUNDRED
bl THOUSAND
beTHOUSAND
bdTY
bf THOUSAND
zIX
bb HUNDRED
bj THOUSAND
bcTHOUSAND
bbTY
bd THOUSAND
yTEN
bb THOUSAND
zHIRTY
be THOUSAND
baREE
bd HUNDRED
bl THOUSAND
beTHOUSAND
zWENTY
be THOUSAND
baO
bb HUNDRED
bj THOUSAND
bcTHOUSAND
jHIEROGLYPHIC LETTER A
bdBA
bf-2
bdDA
bdE
bdHHA
bdI
bdKA
beHA
bdLA
bdMA
bdNA
bf-2
beE
bf-2
bdO
bdPA
bdQA
bdRA
bf-2
bdSA
bf-2
beE
bdTA
bf-2
beE
bf-2
beO
bdWA
bdYA
wSYMBOL VIDJ
bh-2
dPERSON
cSSAGE WAITING
cTRICAL BREVE
jLONG OVER SHORT
tTWO SHORTS
jPENTASEME
jSHORT OVER LONG
jTETRASEME
kRISEME
kWO SHORTS JOINED
uOVER LONG
eO
bIAO LETTER AH
nRCHAIC MA
uNA
vGA
uZZA
mBA
nRI
mDA
nDA
nLHA
pYA
nZA
oHA
oYI
oZA
mFA
mGA
nHA
oHA
mHA
nHA
mKA
mLA
nHA
oYA
nYA
mMA
nHA
mNA
oSALIZATION
nGA
oHA
nHA
nNA
oHA
nYA
oHA
mPA
nLA
mQA
nGA
mREFORMED TONE-1
ba2
ba4
ba5
ba6
ba8
wSHA
nTE
mSA
nHA
nSA
nYI
mTA
nE
nLHA
pYA
nONE-2
r3
r4
r5
r6
r7
r8
nSA
oE
oHA
oSA
nTA
mVA
nFA
mWA
mXA
mYI DZHA
pKA
pNNA
pPA
pTA
qSA
rHA
qTA
mZA
nHA
nSA
oHA
nZA
oSA
pYA
oYA
fSIGN ASPIRATION
kCONSONANT MODIFIER BAR
kREFORMED ASPIRATION
tVOICING
fTONE ABOVE
kBELOW
kRIGHT
kTOP RIGHT
fVOWEL SIGN A
rA
rE
sE
rHH
rI
rN
sG
rU
qE
rA
rI
rN
sG
rR
sR
qI
rA
sN
tG
rE
rG
rI
rNG
rO
sNG
rU
qN
rG
qO
rER
sY
rG
rO
rU
qROUNDED ER
baR
qU
rA
sN
tG
rEI
rI
rNG
rOG
rU
qVW
qW
rO
qY
rI
rUI
cCR DASH SYMBOL
fON US SYMBOL
eO SIGN
fBE
fPHONE
fSCOPE
cDDLE DOT
hTHIRD WHITE RIGHT POINTING INDEX
dLINE HORIZONTAL ELLIPSIS
cLITARY HELMET
jMEDAL
dKY WAY
dL SIGN
cNIBUS
eDISC
eMIZE
dUS SIGN
k IN TRIANGLE
lWITH COMMA ABOVE
qDOT BELOW
qFALLING DOTS
qRISING DOTS
gTILDE
f-OR-PLUS SIGN
dY
cRROR
g BALL
bMSP
bOBILE PHONE
m OFF
nWITH RIGHTWARDS ARROW AT LEFT
cDELS
eRN PENTATHLON
dI ABBREVIATION SIGN
fDANDA
gIGIT EIGHT
lFIVE
mOUR
lNINE
lONE
lSEVEN
mIX
lTHREE
mWO
lZERO
gOUBLE DANDA
fLETTER A
nA
nI
nU
mBA
nHA
mCA
nHA
mDA
nDA
oHA
nHA
mE
mGA
nHA
mHA
mI
nI
mJA
nHA
mKA
nHA
mLA
nLA
mMA
mNA
nGA
nNA
nYA
mO
mPA
nHA
mRA
mSA
nHA
nSA
mTA
nHA
nTA
oHA
mU
nU
mVA
nOCALIC L
vL
uR
vR
mYA
fSIGN ANUSVARA
lRDHACANDRA
kHUVA
kVIRAMA
mSARGA
fVOWEL SIGN AA
rI
rU
qE
qI
rI
qO
qU
rU
qVOCALIC L
zL
yR
zR
eFIER BREVE WITH INVERTED BREVE
jLETTER ACUTE ACCENT
rLVEOLAR CLICK
rPOSTROPHE
qBEGIN HIGH TONE
wLOW TONE
rILABIAL CLICK
qCAPITAL A
zE
yB
zARRED B
yC
yD
yE
yF
yG
yH
z WITH STROKE
yI
yJ
yK
yL
yM
yN
yO
zU
yP
yQ
yR
zEVERSED E
bhN
yT
yU
yV
yW
rENTRED LEFT HALF RING
yRIGHT HALF RING
rHINESE TONE YANG PING
biQU
biRU
biSHANG
beIN PING
bhQU
bhRU
bhSHANG
rIRCUMFLEX ACCENT
rOLON
rROSS ACCENT
rYRILLIC EN
zHARD SIGN
zSOFT SIGN
qDENTAL CLICK
rOT HORIZONTAL BAR
uSLASH
uVERTICAL BAR
sUBLE APOSTROPHE
xPRIME
sWN ARROWHEAD
vTACK
qEND HIGH TONE
uLOW TONE
rXTRA-HIGH DOTTED LEFT-STEM TONE BAR
biTONE BAR
bbLEFT-STEM TONE BAR
bbTONE BAR
wLOW DOTTED LEFT-STEM TONE BAR
bhTONE BAR
baLEFT-STEM TONE BAR
baTONE BAR
qGEORGIAN NAR
rLOTTAL STOP
bc WITH STROKE
rRAVE ACCENT
qHALF TRIANGULAR COLON
rIGH DOTTED LEFT-STEM TONE BAR
bcTONE BAR
vLEFT-STEM TONE BAR
vTONE BAR
qLATERAL CLICK
rEFT ARROWHEAD
vHALF RING
vTACK
rOW ACUTE ACCENT
uCIRCUMFLEX ACCENT
uDOTTED LEFT-STEM TONE BAR
bbTONE BAR
wWN ARROWHEAD
uGRAVE ACCENT
uINVERTED EXCLAMATION MARK
uLEFT ARROW
beHEAD
y-STEM TONE BAR
uMACRON
uRIGHT ARROWHEAD
wNG
uTILDE
vONE BAR
uUP ARROWHEAD
uVERTICAL LINE
tER RIGHT CORNER ANGLE
qMACRON
rID DOTTED LEFT-STEM TONE BAR
bbTONE BAR
uLEFT-STEM TONE BAR
uTONE BAR
tDLE DOUBLE ACUTE ACCENT
beGRAVE ACCENT
xGRAVE ACCENT
sNUS SIGN
qOPEN SHELF
qPLUS SIGN
rRIME
qRAISED COLON
xDOWN ARROW
xEXCLAMATION MARK
xINVERTED EXCLAMATION MARK
xUP ARROW
rETROFLEX CLICK WITH RETROFLEX HOOK
sVERSED COMMA
zGLOTTAL STOP
bl WITH STROKE
rHOTIC HOOK
rIGHT ARROWHEAD
wHALF RING
wTACK
qSHELF
sORT EQUALS SIGN
rMALL A
xE
xIN
xLPHA
wB
x WITH HOOK
xARRED O
xETA
xOTTOM HALF O
wC
x WITH CURL
xAPITAL AA
beB
beG
bf WITH HOOK
beH
beI
bf WITH STROKE
bfNVERTED R
beL
bf WITH BELT
beN
beOE
beR
beU
beY
xHI
xLOSED OMEGA
bdREVERSED OPEN E
wD
x WITH HOOK
bh AND TAIL
bdTAIL
xELTA
yZH DIGRAPH
xOTLESS J WITH STROKE
br AND HOOK
xZ DIGRAPH
bg WITH CURL
bmRETROFLEX HOOK
wE
xNG
xSH
xTH
xZH
wF
xENG DIGRAPH
wG
x WITH HOOK
xAMMA
xREEK GAMMA
bcPHI
wH
x WITH HOOK
bdSTROKE
xENG
ba WITH HOOK
wI WITH STROKE
xOTA
wJ
x WITH CROSSED-TAIL
wK
wL
x WITH BELT
bdINVERTED LAZY S
bdMIDDLE TILDE
bdPALATAL HOOK
bdRETROFLEX HOOK
br AND BELT
xEZH
ba WITH RETROFLEX HOOK
xIGATURE OE
xS DIGRAPH
xZ DIGRAPH
wM
x WITH HOOK
wN WITH LEFT HOOK
bdRETROFLEX HOOK
wO
x WITH STROKE
xPEN E
bbO
wP
xHI
wQ
wR
x WITH FISHHOOK
bdTAIL
xAMS HORN
xEVERSED E
bfGLOTTAL STOP
bfOPEN E
wS
x WITH CURL
bdHOOK
xCHWA
yRIPT G
xIDEWAYS U
wT
x WITH PALATAL HOOK
bdRETROFLEX HOOK
xC DIGRAPH WITH CURL
xESH DIGRAPH
xHETA
xOP HALF O
xS DIGRAPH
bg WITH RETROFLEX HOOK
xURNED A
beE
beLPHA
bdH
bdI
bdM
be WITH LONG LEG
bdOPEN E
bdR
be WITH HOOK
bkLONG LEG
bs AND RETROFLEX HOOK
bdV
bdW
bdY
be WITH BELT
wU
x BAR
yWITH LEFT HOOK
xPSILON
wV
x WITH HOOK
bdRIGHT HOOK
wW
wX
wY
wZ
x WITH CURL
bdRETROFLEX HOOK
rTRESS AND HIGH TONE
bbLOW TONE
rUPERSCRIPT HALF TRIANGULAR COLON
bcTRIANGULAR COLON
qTRIANGULAR COLON
rURNED COMMA
qUNASPIRATED
rP ARROWHEAD
tTACK
rS
qVERTICAL LINE
rOICING
qYANG DEPARTING TONE MARK
rIN DEPARTING TONE MARK
dULO TWO SUM
cNEY BAG
gWITH WINGS
f-MOUTH FACE
dGOLIAN BIRGA
p WITH DOUBLE ORNAMENT
vORNAMENT
kCOLON
mMMA
kDIGIT EIGHT
qFIVE
rOUR
qNINE
qONE
qSEVEN
rIX
qTHREE
rWO
qZERO
lOUBLE BIRGA WITH ORNAMENT
kELLIPSIS
kFOUR DOTS
lREE VARIATION SELECTOR FOUR
biONE
biTHREE
bjWO
lULL STOP
kINVERTED BIRGA
y WITH DOUBLE ORNAMENT
kLETTER A
sLI GALI A
bbH
bbNUSVARA ONE
baBALUDA
baCA
baDA
bcGALGA
bcMARU
bbDA
baHALF U
bfYA
baI
bbNVERTED UBADAMA
baKA
baNGA
bbNA
baPA
bbHA
baSSA
baTA
bbHREE BALUDA
bbTA
bcHA
baUBADAMA
baVISARGA ONE
baZA
bbHA
sNG
rBA
rCHA
u WITH TWO DOTS
tI
rDA
rE
sE
rFA
rGA
rHAA
rI
rJA
rKA
sHA
rLA
sHA
rMA
tNCHU ALI GALI BHA
bhCA
biYA
bhDDHA
biHA
bhGHA
bhJHA
bhLHA
bhNGA
bhSSA
bhTA
biTA
bhZA
biHA
yFA
yI
yKA
yRA
yZHA
rNA
rO
sE
rPA
rQA
rRA
rSA
sHA
sIBE ANG
wCHA
wDA
wE
wFA
wGA
yA
wHA
yA
wI
xY
wJA
wKA
wPA
wRAA
wSHA
wTA
xSA
wU
xE
wZA
xHA
rTA
sODO ALI GALI TA
bfZHA
xNG
wBA
wCHA
wDA
xZA
wE
wGA
yA
wHAA
wI
wJA
xIA
wKA
wLONG VOWEL SIGN
wMA
wNIA
wO
xE
wPA
wQA
wTA
xSA
wU
xE
wWA
wYA
sSA
rU
sE
rWA
rYA
rZA
sHI
sRA
kMANCHU COMMA
rFULL STOP
kNIRUGU
kROTATED BIRGA
x WITH DOUBLE ORNAMENT
bdORNAMENT
kSIBE SYLLABLE BOUNDARY MARKER
lWIRL BIRGA
v WITH DOUBLE ORNAMENT
bbORNAMENT
kTODO SOFT HYPHEN
lRIPLE BIRGA WITH ORNAMENT
lURNED SWIRL BIRGA WITH DOUBLE ORNAMENT
kVOWEL SEPARATOR
dKEY
g FACE
dOGRAM FOR EARTH
nYANG
oIN
eRAIL
eSTABLE SYMBOL
cOD BUBBLE
dN CAKE
fVIEWING CEREMONY
cSQUE
fITO
cTHER CHRISTMAS
dOR BOAT
gSCOOTER
fIZED WHEELCHAIR
fWAY
cUNT FUJI
fAIN
i BICYCLIST
jCABLEWAY
jRAILWAY
dSE
f FACE
gTRAP
dTH
cVIE CAMERA
cYAI
bRO DANDA
fIGIT EIGHT
kFIVE
lOUR
kNINE
kONE
kSEVEN
lIX
kTHREE
lWO
kZERO
fOUBLE DANDA
eLETTER A
lBA
lCHU
lDA
nI
lE
mA
lHAI
nO
lKEAAE
mHAI
mO
lLA
nN
lMAEM
mIM
lNGI
mIN
lO
mL
mO
lPA
mHI
lRI
mO
lSHI
lTA
mEK
mHEA
lWA
lYO
bUCH GREATER-THAN
fLESS-THAN
cLTANI LETTER A
pBA
qHA
pCA
qHA
pDA
qDA
rDA
rHA
qHA
pE
pGA
qHA
pHA
pI
pJA
qJA
pKA
qHA
pLA
pMA
pNA
qNA
qYA
pPA
qHA
pRA
qHA
qRA
pSA
pTA
qHA
qTA
rHA
pU
pVA
pYA
iSECTION MARK
eIMAP
fPLE MUSICAL NOTES
hICATION SIGN
t IN DOUBLE CIRCLE
xLEFT HALF CIRCLE
xRIGHT HALF CIRCLE
xTRIANGLE
uWITH DOT ABOVE
zUNDERBAR
pX
fSET
i MULTIPLICATION
jUNION
cSHROOM
dIC FLAT SIGN
gNATURAL SIGN
gSHARP SIGN
fAL KEYBOARD
q WITH JACKS
iNOTE
iSCORE
jYMBOL ARPEGGIATO DOWN
baUP
pBEGIN BEAM
vPHRASE
vSLUR
vTIE
qRACE
tKET
rEATH MARK
sVE
tIS
v REST
pC CLEF
qAESURA
qIRCLE X NOTEHEAD
qLIMACUS
sVIS
rUSTER NOTEHEAD BLACK
bgWHITE
qODA
rMBINING ACCENT
bf-STACCATO
baUGMENTATION DOT
zBEND
zDOIT
bbUBLE TONGUE
bbWN BOW
zFLAG-1
be2
be3
be4
be5
bbIP
zHARMONIC
zLOURE
zMARCATO
bg-STACCATO
zRIP
zSMEAR
baNAP PIZZICATO
baPRECHGESANG STEM
baTACCATISSIMO
bgO
bbEM
zTENUTO
baREMOLO-1
bh2
bh3
bbIPLE TONGUE
zUP BOW
sMON TIME
qRESCENDO
rOIX
qUT TIME
pDA CAPO
rL SEGNO
rMP
t ALL
rSHED BARLINE
qECRESCENDO
rGREE SLASH
qOUBLE BARLINE
wFLAT
wSHARP
qRUM CLEF-1
z2
pEIGHTH NOTE
wREST
qND BEAM
tOF STIMME
tPHRASE
tSLUR
tTIE
pF CLEF
v OTTAVA ALTA
bdBASSA
qERMATA
w BELOW
qINAL BARLINE
sGERED TREMOLO-1
bg2
bg3
rVE-LINE STAFF
qLAT DOWN
uUP
qORTE
rUR-LINE STAFF
uSTRING FRETBOARD
qUSA BLACK
uWHITE
pG CLEF
v OTTAVA ALTA
bdBASSA
qLISSANDO DOWN
zUP
qRACE NOTE NO SLASH
baSLASH
rEGORIAN C CLEF
zF CLEF
pHALF NOTE
uPEDAL MARK
uREST
rUPTSTIMME
pINVERTED TURN
pKIEVAN C CLEF
wEIGHTH NOTE STEM DOWN
bnUP
xND OF PIECE
wFINAL NOTE
xLAT SIGN
wHALF NOTE
wQUARTER NOTE STEM DOWN
boUP
wRECITATIVE MARK
wWHOLE NOTE
qORON
pLEFT REPEAT SIGN
qONGA
u IMPERFECTA REST
vPERFECTA REST
pMAXIMA
qEZZO
qINIMA
v BLACK
wREST
qOON NOTEHEAD BLACK
bdWHITE
qULTI REST
uPLE MEASURE REST
pNATURAL DOWN
xUP
qEBENSTIMME
qOTEHEAD BLACK
qULL NOTEHEAD
pONE HUNDRED TWENTY-EIGHTH NOTE
bpREST
s-LINE STAFF
qRNAMENT STROKE-1
bg0
bg1
bf2
bf3
bf4
bf5
bf6
bf7
bf8
bf9
qTTAVA ALTA
wBASSA
pPARENTHESIS NOTEHEAD
qEDAL MARK
vUP MARK
rS SUBPUNCTIS
qIANO
qLUS NOTEHEAD
qODATUS
rRRECTUS
y FLEXUS
pQUARTER NOTE
xREST
xTONE FLAT
bcSHARP
rINDICESIMA ALTA
bcBASSA
pREPEAT DOTS
vED FIGURE-1
bf2
bf3
rVERSE FINAL BARLINE
qIGHT REPEAT SIGN
rNFORZANDO
pSCANDICUS
y FLEXUS
qEGNO
rMIBREVIS BLACK
baREST
baWHITE
tMINIMA BLACK
baREST
baWHITE
qHARP DOWN
vUP
rORT BARLINE
qINGLE BARLINE
rX-LINE STAFF
tSTRING FRETBOARD
sTEENTH NOTE
zREST
tY-FOURTH NOTE
bcREST
qORI
qQUARE B
wNOTEHEAD BLACK
bfWHITE
qUBITO
pTEMPUS IMPERFECTUM CUM PROLATIONE IMPERFECTA
ch DIMINUTION-1
ct2
ct3
bxPERFECTA
wPERFECTUM CUM PROLATIONE IMPERFECTA
bvPERFECTA
cd DIMINUTION-1
qHIRTY-SECOND NOTE
bdREST
rREE-LINE STAFF
qORCULUS
x RESUPINUS
qR
rIANGLE NOTEHEAD DOWN BLACK
bmWHITE
bhLEFT BLACK
bmWHITE
bhRIGHT BLACK
bnWHITE
bhUP BLACK
bkRIGHT BLACK
bqWHITE
bkWHITE
x-ROUND NOTEHEAD DOWN BLACK
bsWHITE
qURN
t SLASH
uUP
qWO-LINE STAFF
pVIRGA
qOID NOTEHEAD
pWHOLE NOTE
vREST
qITH FINGERNAILS
pX NOTEHEAD
pZ
bVS
bW
bYANMAR CONSONANT SIGN MEDIAL HA
beRA
beWA
beYA
yON MEDIAL LA
biMA
biNA
xSHAN MEDIAL WA
iDIGIT EIGHT
oFIVE
pOUR
oNINE
oONE
oSEVEN
pIX
oTHREE
pWO
oZERO
iLETTER A
qITON RA
qU
pBA
qHA
pCA
qHA
pDA
qDA
rHA
qHA
pE
qASTERN PWO KAREN GHWA
bhNNA
bhYWA
pGA
qHA
qREAT SA
pHA
pI
qI
pJA
qHA
pKA
qHA
sMTI CA
xHA
wDDA
yHA
xHA
wFA
wGA
wHA
xHA
wJA
xHA
wLLA
wNA
xYA
wRA
wSA
wTTA
yHA
wXA
wZA
pLA
qLA
pMA
qON BBA
vE
tE
tJHA
tNGA
pNA
qGA
qNA
rYA
qYA
pO
pPA
qHA
pRA
qUMAI PALAUNG FA
pSA
qGAW KAREN SHA
qHA
sN A
uBA
vHA
uCA
vHA
uDA
uFA
uGA
vHA
uHA
uJHA
uKA
vHA
uNA
vNA
vYA
uPHA
uTHA
uZA
rWE PALAUNG CHA
bcSHA
qSA
pTA
rI LAING BA
baHA
zDA
baDA
bbHA
baHA
zFA
zGA
baHA
zJA
baHA
zLLA
zNNA
baYA
qHA
qTA
rHA
pU
qU
pVOCALIC L
yL
xR
yR
pWA
qESTERN PWO KAREN PWA
bhTHA
pYA
jOGOGRAM KHAMTI HM
yOAY
yQN
iMODIFIER LETTER KHAMTI REDUPLICATION
ySHAN REDUPLICATION
iSHAN DIGIT EIGHT
tFIVE
uOUR
tNINE
tONE
tSEVEN
uIX
tTHREE
uWO
tZERO
jIGN ANUSVARA
oSAT
nDOT BELOW
nKHAMTI TONE-1
z3
nLITTLE SECTION
nPAO KAREN TONE
nRUMAI PALAUNG TONE-5
nSECTION
oHAN COUNCIL EMPHATIC TONE
baTONE-2
bf3
sSAW
sTONE-2
x3
x5
x6
nTAI LAING TONE-2
bc5
nVIRAMA
pSARGA
nWESTERN PWO KAREN TONE-1
bk2
bk3
bk4
bk5
jYMBOL AFOREMENTIONED
qITON EXCLAMATION
vONE
vTWO
pCOMPLETED
pGENITIVE
pLOCATIVE
pSHAN EXCLAMATION
uONE
iTAI LAING DIGIT EIGHT
yFIVE
zOUR
yNINE
yONE
ySEVEN
zIX
yTHREE
zWO
yZERO
jONE MARK SGAW KAREN HATHI
bdKE PHO
iVOWEL SIGN AA
uI
vTON A
baI
tE
u ABOVE
tGEBA KAREN I
tI
uI
tKAYAH EE
zOE
zU
tMON II
xO
tSGAW KAREN EU
uHAN AA
yE
z ABOVE
yFINAL Y
tTALL AA
tU
uU
tVOCALIC L
bcL
bbR
bcR
tWESTERN PWO KAREN EU
blUE
aN-ARY CIRCLED DOT OPERATOR
oPLUS OPERATOR
oTIMES OPERATOR
hOPRODUCT
gINTERSECTION
gLOGICAL AND
oOR
gPRODUCT
gSQUARE INTERSECTION OPERATOR
nUNION OPERATOR
hUMMATION
gTIMES OPERATOR
gUNION
l OPERATOR WITH DOT
baPLUS
gWHITE VERTICAL BAR
bABATAEAN CRUCIFORM NUMBER FOUR
kLETTER ALEPH
sYIN
rBETH
rDALETH
rFINAL ALEPH
xBETH
xHE
xKAPH
xLAMEDH
xMEM
xNUN
xSHIN
xYODH
rGIMEL
rHE
tTH
rKAPH
rLAMEDH
rMEM
rNUN
rPE
rQOPH
rRESH
rSADHE
tMEKH
sHIN
rTAW
sETH
rWAW
rYODH
rZAYIN
kNUMBER FIVE
sOUR
rONE
u HUNDRED
rTEN
sHREE
sWENTY
tO
dLA
cIL POLISH
dRA SIGN
cK
cME BADGE
cND
eINAGARI HEADSTROKE
mLETTER A
uA
uI
uU
tBA
uHA
tCA
uHA
tDA
uDA
vHA
uHA
tE
tGA
uHA
tHA
tI
uI
tJA
uHA
tKA
uHA
tLA
uLA
tMA
tNA
uGA
uNA
uYA
tO
tPA
uHA
tRA
uRA
tSA
uHA
uSA
tTA
uHA
uTA
vHA
tU
uU
tVA
uOCALIC R
bcR
tYA
mSIGN ANUSVARA
sVAGRAHA
rSIDDHAM
rVIRAMA
tSARGA
mVOWEL SIGN AA
yI
yU
xE
xI
yI
xO
xPRISHTHAMATRA E
xU
yU
xVOCALIC R
bgR
cRROW NO-BREAK SPACE
cTIONAL DIGIT SHAPES
jPARK
cUSEATED FACE
cZAR AMULET
bBH
cSP
bECKTIE
cGATED DOUBLE VERTICAL BAR DOUBLE RIGHT TURNSTILE
fIVE ACKNOWLEDGE
jCIRCLED DIGIT ZERO
rLATIN CAPITAL LETTER A
bmB
bmC
bmD
bmE
bmF
bmG
bmH
bmI
bmJ
bmK
bmL
bmM
bmN
bmO
bmP
bmQ
bmR
bmS
bmT
bmU
bmV
bmW
bmX
bmY
bmZ
rNUMBER EIGHTEEN
zLEVEN
yFIFTEEN
zOURTEEN
yNINETEEN
ySEVENTEEN
zIXTEEN
yTHIRTEEN
zWELVE
bbNTY
rSQUARE
rTRIANGLE
jDIAGONAL CROSS
sDIAMOND
sMIDDLE RIGHT TO LOWER CENTRE
jSQUARED AB
rCROSS MARK
rIC
rLATIN CAPITAL LETTER A
bmB
bmC
bmD
bmE
bmF
bmG
bmH
bmI
bmJ
bmK
bmL
bmM
bmN
bmO
bmP
bmQ
bmR
bmS
bmT
bmU
bmV
bmW
bmX
bmY
bmZ
rPA
rQUESTION MARK
rSA
rWC
cITHER A SUBSET OF NOR EQUAL TO
mPERSET OF NOR EQUAL TO
jPPROXIMATELY NOR ACTUALLY EQUAL TO
iGREATER-THAN NOR EQUAL TO
bcIVALENT TO
zLESS-THAN
iLESS-THAN NOR EQUAL TO
zIVALENT TO
wGREATER-THAN
cL
cPTUNE
h FORM TWO
cRD FACE
cSSUS
dT WITH EGGS
eING DOLLS
cUTER
eRAL CHESS BISHOP
u ROTATED NINETY DEGREES
bdTWO HUNDRED SEVENTY DEGREES
oEQUIHOPPER
y ROTATED NINETY DEGREES
oKING
s ROTATED NINETY DEGREES
bbTWO HUNDRED SEVENTY DEGREES
pNIGHT
u ROTATED FORTY-FIVE DEGREES
bdNINETY DEGREES
bdONE HUNDRED THIRTY-FIVE DEGREES
bdTHREE HUNDRED FIFTEEN DEGREES
beWO HUNDRED SEVENTY DEGREES
bpTWENTY-FIVE DEGREES
oPAWN
s ROTATED NINETY DEGREES
bbTWO HUNDRED SEVENTY DEGREES
oQUEEN
t ROTATED NINETY DEGREES
bcTWO HUNDRED SEVENTY DEGREES
oROOK
s ROTATED NINETY DEGREES
bbTWO HUNDRED SEVENTY DEGREES
oTURNED BISHOP
vKING
wNIGHT
vPAWN
vQUEEN
vROOK
iFACE
cW LINE
eMOON SYMBOL
jWITH FACE
eSHEQEL SIGN
eTAI LUE DIGIT EIGHT
sFIVE
tOUR
sNINE
sONE
sSEVEN
tIX
sTHREE
tWO
sZERO
mLETTER FINAL B
zD
zK
zM
zN
baG
zV
tHIGH BA
yDA
yFA
yHA
yKA
zVA
yLA
yMA
yNA
zGA
yPA
zHA
yQA
ySA
zUA
yTA
zHA
zSA
yVA
yXA
zVA
yYA
tLOW BA
xDA
xFA
xHA
xKA
yVA
xLA
xMA
xNA
yGA
xPA
yHA
xQA
xSA
yUA
xTA
yHA
ySA
xVA
xXA
yVA
xYA
mSIGN LAE
uV
mTHAM DIGIT ONE
nONE MARK-1
w2
mVOWEL SIGN AA
zY
yE
yY
xE
xII
yY
xO
yA
zY
yY
xU
yE
zY
yU
yY
xVOWEL SHORTENER
dA ABBREVIATION SIGN
fCOMMA
fDANDA
gIGIT EIGHT
lFIVE
mOUR
lNINE
lONE
lSEVEN
mIX
lTHREE
mWO
lZERO
gOUBLE COMMA
mDANDA
fGAP FILLER
fINSERTION SIGN
fLETTER A
nA
nI
nU
mBA
nHA
mCA
nHA
mDA
nDA
oHA
nHA
mE
mGA
nHA
mHA
mI
nI
mJA
nHA
mKA
nHA
mLA
nHA
mMA
nHA
mNA
nGA
oHA
nHA
nNA
nYA
oHA
mO
mPA
nHA
mRA
nHA
mSA
nHA
nSA
mTA
nHA
nTA
oHA
mU
nU
mVEDIC ANUSVARA
nOCALIC L
vL
uR
vR
mWA
mYA
fOM
fPLACEHOLDER MARK
fSANDHI MARK
gIDDHI
hGN ANUSVARA
lVAGRAHA
kCANDRABINDU
kFINAL ANUSVARA
kJIHVAMULIYA
kNUKTA
kUPADHMANIYA
kVIRAMA
mSARGA
fVOWEL SIGN AA
rI
rU
qE
qI
rI
qO
qU
rU
qVOCALIC L
zL
yR
zR
dLINE LEFT
iRIGHT
dSPAPER
cXT LINE
fPAGE
bIGHT WITH STARS
cNJA
bKO COMBINING DOUBLE DOT ABOVE
oLONG DESCENDING TONE
tHIGH TONE
tLOW TONE
tRISING TONE
oNASALIZATION MARK
oSHORT HIGH TONE
uLOW TONE
uRISING TONE
hMA
eDANTAYALAN
fIGIT EIGHT
kFIVE
lOUR
kNINE
kONE
kSEVEN
lIX
kTHREE
lWO
kZERO
fOROME SIGN
eEXCLAMATION MARK
eHIGH TONE APOSTROPHE
eLAJANYALAN
fETTER A
lBA
lCHA
lDA
nGBASINNA
lE
mE
lFA
lGBA
lHA
lI
lJA
mONA CHA
qJA
qRA
lKA
lLA
lMA
lN
mA
n WOLOSO
mYA
o WOLOSO
lO
mO
lPA
lRA
mRA
lSA
lTA
lU
lWA
lYA
fOW TONE APOSTROPHE
eSYMBOL GBAKURUNEN
lOO DENNEN
eTAMAN SIGN
bL
bNBSP
bO BICYCLES
eREAK HERE
dENTRY
i SIGN
dMOBILE PHONES
dONE UNDER EIGHTEEN SYMBOL
dPEDESTRIANS
eIRACY
dSMOKING SYMBOL
c-BREAK SPACE
cMINAL DIGIT SHAPES
eSMA SIGN
cN-BREAKING HYPHEN
ePOTABLE WATER SYMBOL
dFORKING
cR
dDIC MARK SIGN
dMAL SUBGROUP OF
s OR EQUAL TO
dTH EAST AND SOUTH WEST ARROW
mRROW
q AND SOUTH EAST ARROW
rCROSSING NORTH WEST ARROW
baSOUTH EAST ARROW
rWITH HOOK
lBLACK ARROW
lDOUBLE ARROW
lPOINTING BUD
uLEAF
uVINE LEAF
lSANS-SERIF ARROW
lTRIANGLE-HEADED ARROW
bg TO BAR
lWHITE ARROW
gINDIC FRACTION ONE EIGHTH
zHALF
zQUARTER
zSIXTEENTH
vTHREE QUARTERS
bbSIXTEENTHS
mPLACEHOLDER MARK
mQUANTITY MARK
pRTER MARK
mRUPEE MARK
gWEST AND SOUTH EAST ARROW
mRROW
q AND NORTH EAST ARROW
rCROSSING NORTH EAST ARROW
rTO CORNER
uLONG BAR
rWITH HOOK
lBLACK ARROW
lDOUBLE ARROW
lPOINTING BUD
uLEAF
uVINE LEAF
lSANS-SERIF ARROW
lTRIANGLE-HEADED ARROW
bg TO BAR
lWHITE ARROW
fEAST-POINTING AIRPLANE
cSE
cT A SUBSET OF
iPERSET OF
fLMOST EQUAL TO
fN ELEMENT OF
fSYMPTOTICALLY EQUAL TO
eCHECK MARK
eEQUAL TO
hIVALENT TO
eGREATER-THAN
eIDENTICAL TO
eLESS-THAN
eNORMAL SUBGROUP OF
w OR EQUAL TO
ePARALLEL TO
eSIGN
fQUARE IMAGE OF OR EQUAL TO
lORIGINAL OF OR EQUAL TO
eTILDE
fRUE
dCHED LEFT SEMICIRCLE WITH THREE DOTS
jOWER RIGHT-SHADOWED WHITE RIGHTWARDS ARROW
iRIGHT SEMICIRCLE WITH THREE DOTS
iUPPER RIGHT-SHADOWED WHITE RIGHTWARDS ARROW
dE
e PAD
hGE
eBOOK
i WITH DECORATIVE COVER
bUL
dL
cMBER EIGHTEEN FULL STOP
iLEVEN FULL STOP
hFIFTEEN FULL STOP
iOURTEEN FULL STOP
hNINETEEN FULL STOP
hSEVENTEEN FULL STOP
iIGN
jXTEEN FULL STOP
hTEN FULL STOP
iHIRTEEN FULL STOP
iWELVE FULL STOP
kNTY FULL STOP
dERO SIGN
cSHU CHARACTER-1B170
u1
u2
u3
u4
u5
u6
u7
u8
u9
uA
uB
uC
uD
uE
uF
t80
u1
u2
u3
u4
u5
u6
u7
u8
u9
uA
uB
uC
uD
uE
uF
t90
u1
u2
u3
u4
u5
u6
u7
u8
u9
uA
uB
uC
uD
uE
uF
tA0
u1
u2
u3
u4
u5
u6
u7
u8
u9
uA
uB
uC
uD
uE
uF
tB0
u1
u2
u3
u4
u5
u6
u7
u8
u9
uA
uB
uC
uD
uE
uF
tC0
u1
u2
u3
u4
u5
u6
u7
u8
u9
uA
uB
uC
uD
uE
uF
tD0
u1
u2
u3
u4
u5
u6
u7
u8
u9
uA
uB
uC
uD
uE
uF
tE0
u1
u2
u3
u4
u5
u6
u7
u8
u9
uA
uB
uC
uD
uE
uF
tF0
u1
u2
u3
u4
u5
u6
u7
u8
u9
uA
uB
uC
uD
uE
uF
s200
u1
u2
u3
u4
u5
u6
u7
u8
u9
uA
uB
uC
uD
uE
uF
t10
u1
u2
u3
u4
u5
u6
u7
u8
u9
uA
uB
uC
uD
uE
uF
t20
u1
u2
u3
u4
u5
u6
u7
u8
u9
uA
uB
uC
uD
uE
uF
t30
u1
u2
u3
u4
u5
u6
u7
u8
u9
uA
uB
uC
uD
uE
uF
t40
u1
u2
u3
u4
u5
u6
u7
u8
u9
uA
uB
uC
uD
uE
uF
t50
u1
u2
u3
u4
u5
u6
u7
u8
u9
uA
uB
uC
uD
uE
uF
t60
u1
u2
u3
u4
u5
u6
u7
u8
u9
uA
uB
uC
uD
uE
uF
t70
u1
u2
u3
u4
u5
u6
u7
u8
u9
uA
uB
uC
uD
uE
uF
t80
u1
u2
u3
u4
u5
u6
u7
u8
u9
uA
uB
uC
uD
uE
uF
t90
u1
u2
u3
u4
u5
u6
u7
u8
u9
uA
uB
uC
uD
uE
uF
tA0
u1
u2
u3
u4
u5
u6
u7
u8
u9
uA
uB
uC
uD
uE
uF
tB0
u1
u2
u3
u4
u5
u6
u7
u8
u9
uA
uB
uC
uD
uE
uF
tC0
u1
u2
u3
u4
u5
u6
u7
u8
u9
uA
uB
uC
uD
uE
uF
tD0
u1
u2
u3
u4
u5
u6
u7
u8
u9
uA
uB
uC
uD
uE
uF
tE0
u1
u2
u3
u4
u5
u6
u7
u8
u9
uA
uB
uC
uD
uE
uF
tF0
u1
u2
u3
u4
u5
u6
u7
u8
u9
uA
uB
gITERATION MARK
cT AND BOLT
bYIAKENG PUACHUE HMONG CIRCLED CA
xDIGIT EIGHT
bdFIVE
beOUR
bdNINE
bdONE
bdSEVEN
beIX
bdTHREE
beWO
bdZERO
xLETTER A
bfA
beCA
beDA
bfLA
beE
bfE
beFA
beGA
beHA
bgH
beI
beKA
beLA
beMA
bfLA
beNA
bfCA
bfKA
bfPA
bgLA
bfQA
bfRA
bfTA
bgSA
bgXA
bfYA
beO
bfO
bePA
bfLA
beQA
beRA
bfRA
beSA
beTA
bfSA
bfXA
beU
beVA
beW
beXA
bfYA
beYA
beZA
yOGOGRAM NYAJ
xSIGN FOR ANIMAL
bgINVERTEBRATE
bgLOCATION
bgPERSON
bgTHING
bcXW XW
yYLLABLE LENGTHENER
xTONE-B
bcD
bcG
bcJ
bcM
bcS
bcV
aOBJECT REPLACEMENT CHARACTER
cLIQUE ANGLE OPENING DOWN
wUP
iHYPHEN
cSERVER EYE SYMBOL
bCR AMOUNT OF CHECK
eBELT BUCKLE
fOW TIE
fRANCH BANK IDENTIFICATION
eCHAIR
fUSTOMER ACCOUNT NUMBER
eDASH
fOUBLE BACKSLASH
eFORK
eHOOK
eINVERTED FORK
cTAGONAL SIGN
dOPUS
bDEN
bFFICE BUILDING
bGHAM FEATHER MARK
gLETTER AILM
nBEITH
nCEIRT
oOLL
nDAIR
nEABHADH
pDHADH
pMHANCHOLL
nFEARN
nGORT
nIFIN
oODHADH
nLUIS
nMUIN
nNGEADAL
oION
nONN
oR
nPEITH
nRUIS
nSAIL
oTRAIF
nTINNE
nUATH
oILLEANN
oR
gREVERSED FEATHER MARK
gSPACE MARK
cONEK
bHM SIGN
bIL DRUM
bK HAND SIGN
bL CHIKI AHAD
jDIGIT EIGHT
pFIVE
qOUR
pNINE
pONE
pSEVEN
qIX
pTHREE
qWO
pZERO
jGAAHLAA TTUDDAAG
jLETTER AAJ
sK
sM
sW
rG
rL
rNG
rT
qEDD
rN
rP
rRR
qIH
rNY
rR
rS
qLA
sA
rE
rI
rO
rU
qOB
rH
rTT
rV
qUC
rD
rNN
rY
jMU TTUDDAG
l-GAAHLAA TTUDDAAG
jPHAARKAA
kUNCTUATION DOUBLE MUCAAD
vMUCAAD
jRELAA
cD CHINESE HOOK MARK
mITERATION MARK
eHUNGARIAN CAPITAL LETTER A
beA
beK
beMB
beND
bdCLOSE E
bdE
beB
beC
bfH
bfS
beD
beE
beF
beG
bfY
beH
beJ
beK
beL
bfY
beM
bfP
beN
bfC
bfT
bg-SHAPED SIGN
bfY
beP
beR
beS
bfZ
beT
bfY
beV
beZ
bfS
bdI
beI
bdNIKOLSBURG OE
boUE
bdO
beEE
beO
bdRUDIMENTA OE
bnUE
bdSHORT ER
bdU
beNK
beS
beU
oNUMBER FIFTY
xVE
vONE
y HUNDRED
zTHOUSAND
vTEN
oSMALL LETTER A
bcA
bcK
bcMB
bcND
bbCLOSE E
bbE
bcB
bcC
bdH
bdS
bcD
bcE
bcF
bcG
bdY
bcH
bcJ
bcK
bcL
bdY
bcM
bdP
bcN
bdC
bdT
be-SHAPED SIGN
bdY
bcP
bcR
bcS
bdZ
bcT
bdY
bcV
bcZ
bdS
bbI
bcI
bbNIKOLSBURG OE
bmUE
bbO
bcEE
bcO
bbRUDIMENTA OE
blUE
bbSHORT ER
bbU
bcNK
bcS
bcU
eITALIC LETTER A
sBE
sCHE
sDE
sE
tF
tKS
tL
tM
tN
tR
uS
tS
uH
uS
sHE
sI
tI
sKA
tE
tHE
tU
sNORTHERN TSE
sO
sPE
tHE
sSHE
tOUTHERN TSE
sTE
tHE
sU
tU
sVE
sYE
sZE
lNUMERAL FIFTY
vVE
tONE
tTEN
eKEY
eNORTH ARABIAN LETTER AIN
baLEF
zBEH
zDAD
bbL
zES-1
bc2
bc3
zFEH
zGEEM
baHAIN
zHAH
baEH
zKAF
baHAH
zLAM
zMEEM
zNOON
zQAF
zREH
zSAD
zTAH
baEH
baHAL
bbEH
zWAW
zYEH
zZAH
bbIN
sNUMBER ONE
zTEN
baWENTY
ePERMIC LETTER AN
sBUR
sCHERY
sDOI
tZHOI
uITA
sE
tF
sGAI
sHA
sI
tA
tE
sKOKE
sLEI
sMENOE
sNENOE
sO
tO
sPEEI
sREI
sSHCHOOI
uOOI
tII
sTAI
tSIU
sU
sVER
tOOI
sYA
uT
tER
vI
vU
tRY
tU
sZATA
tHOI
hSIAN NUMBER HUNDRED
tONE
tTEN
uWENTY
vO
mSIGN A
sURAMAZDAA
bb-2
bbHA
rBA
tGA
sUUMISH
rCA
rDA
tHYAAUSH
ba-2
sI
sU
rFA
rGA
sU
rHA
rI
rJA
sI
rKA
sU
rLA
rMA
sI
sU
rNA
sU
rPA
rRA
sU
rSA
sHA
sSA
rTA
sHA
sU
rU
rVA
sI
rXA
sSHAAYATHIYA
rYA
rZA
mWORD DIVIDER
iONAL COMPUTER
eSOGDIAN FRACTION ONE HALF
mLETTER ALEPH
vTERNATE AYIN
uYIN
tBETH
tFINAL ALEPH
zBETH
zHE
zNUN
bc WITH VERTICAL TAIL
zSADHE
be WITH VERTICAL TAIL
zTAW
bc WITH VERTICAL TAIL
tGIMEL
tHE
vTH
tKAPH
tLAMEDH
tMEM
tNUN
tPE
tRESH-AYIN-DALETH
tSADHE
vMEKH
uHIN
tTAW
tWAW
tYODH
tZAYIN
nIGATURE AYIN-DALETH
mNUMBER FIVE
uOUR
tONE
w HUNDRED
tTEN
uHIRTY
vREE
uWENTY
vO
gUTH ARABIAN LETTER ALEF
baYN
zBETH
zDALETH
baHADHE
bcLETH
zFE
zGHAYN
baIMEL
zHE
bbTH
zKAPH
baHETH
zLAMEDH
zMEM
zNUN
zQOPH
zRESH
zSADHE
bbMEKH
bbT
baHIN
zTAW
baETH
baHAW
bbETH
zWAW
zYODH
zZAYN
sNUMBER FIFTY
zONE
vERIC INDICATOR
eTURKIC LETTER ORKHON A
baB
baD
baEB
bbD
bbG
bbK
bbL
bbN
bbR
bbS
bbT
bbY
baG
baL
baN
baQ
baR
baS
bbH
baT
baY
zBASH
zEC
baLT
baM
baNC
bbG
bbT
bbY
baP
baSH
baZ
zI
baC
baQ
zO
baE
bbK
baP
baQ
baT
sYENISEI A
bbB
bbD
bbE
bcB
bcG
bcK
bcN
bdG
bcT
bcY
bbG
bbL
bbNG
bbQ
bbR
bbSH
bbT
bbY
baE
bbC
bbNC
bcT
bcY
bbSH
bbZ
baI
bbQ
baOE
bcK
bbQ
eUYGHUR COMBINING DOT ABOVE
zBELOW
vTWO DOTS ABOVE
beBELOW
lLETTER ALEPH
sBETH
sFINAL HETH
sGIMEL-HETH
sKAPH
sLAMEDH
tESH
sMEM
sNUN
sPE
sRESH
sSADHE
uMEKH
tHIN
sTAW
sWAW
sYODH
sZAYIN
lPUNCTUATION BAR
xFOUR DOTS
xTWO BARS
bbDOTS
dER ADULT
gMAN
gWOMAN
cIVE
bM SYMBOL
bN WITH EXCLAMATION MARK WITH LEFT RIGHT ARROW ABOVE
cCOMING AUTOMOBILE
jBUS
jFIRE ENGINE
jPOLICE CAR
jTAXI
cE BUTTON MOUSE
eDOT LEADER
iOVER TWO DOTS PUNCTUATION
d-PIECE SWIMSUIT
cION
bPEN BOOK
hX
fCENTRE ASTERISK
mBLACK STAR
mCROSS
mTEARDROP-SPOKED ASTERISK
fFILE FOLDER
gOLDER
fHANDS SIGN
fLOCK
fMAILBOX WITH LOWERED FLAG
sRAISED FLAG
fSUBSET
hPERSET
e-CIRCUIT-OUTPUT H-TYPE SYMBOL
uL-TYPE SYMBOL
fOUTLINED RIGHTWARDS ARROW
dRATING SYSTEM COMMAND
cHIUCHUS
cPOSITION
cTICAL DISC
m ICON
eON KEY
bR WITH DOT INSIDE
cANGE BOOK
hHEART
fUTAN
cIGINAL OF
dYA AI LENGTH MARK
hU LENGTH MARK
gDIGIT EIGHT
mFIVE
nOUR
mNINE
mONE
mSEVEN
nIX
mTHREE
nWO
mZERO
gFRACTION ONE EIGHTH
tHALF
tQUARTER
tSIXTEENTH
pTHREE QUARTERS
vSIXTEENTHS
gISSHAR
gLETTER A
oA
oI
oU
nBA
oHA
nCA
oHA
nDA
oDA
pHA
oHA
nE
nGA
oHA
nHA
nI
oI
nJA
oHA
nKA
oHA
nLA
oLA
nMA
nNA
oGA
oNA
oYA
nO
nPA
oHA
nRA
oHA
oRA
nSA
oHA
oSA
nTA
oHA
oTA
pHA
nU
oU
nVA
oOCALIC L
wL
vR
wR
nWA
nYA
oYA
gSIGN ANUSVARA
mVAGRAHA
lCANDRABINDU
lNUKTA
lOVERLINE
lVIRAMA
nSARGA
gVOWEL SIGN AA
sI
sU
rE
rI
sI
rO
rU
sU
rVOCALIC L
baL
zR
baR
cNATE LEFT PARENTHESIS
hRIGHT PARENTHESIS
cTHODOX CROSS
bSAGE CAPITAL LETTER A
wH
wI
xN
vBRA
vCHA
vDHA
vE
wHCHA
xKA
xPA
xTA
ySA
wIN
vGHA
vHA
wYA
vI
vKA
wHA
wYA
vLA
vMA
vNA
vO
wIN
vPA
vSA
wHA
vTA
wSA
xHA
vU
vWA
vZA
wHA
gSMALL LETTER A
uH
uI
vN
tBRA
tCHA
tDHA
tE
uHCHA
vKA
vPA
vTA
wSA
uIN
tGHA
tHA
uYA
tI
tKA
uHA
uYA
tLA
tMA
tNA
tO
uIN
tPA
tSA
uHA
tTA
uSA
vHA
tU
tWA
tZA
uHA
cC
cMANYA DIGIT EIGHT
oFIVE
pOUR
oNINE
oONE
oSEVEN
pIX
oTHREE
pWO
oZERO
iLETTER A
qA
qLEF
pBA
pCAYN
pDEEL
qHA
pE
qE
pFA
pGA
pHA
pI
pJA
pKAAF
qHA
pLAAN
pMIIN
pNUUN
pO
qO
pQAAF
pRA
pSA
qHIIN
pTA
pU
pWAW
pXA
pYA
bTTER
dOMAN SIYAQ ALTERNATE NUMBER EIGHT
bfFIVE
bgOUR
bj HUNDRED
bfNINE
bfSEVEN
bgIX
bi HUNDRED
bfTEN
bi THOUSAND
bgHREE
bgWO
bi THOUSAND
oFRACTION ONE HALF
bbSIXTH
oMARRATAN
oNUMBER EIGHT
ba HUNDRED
bbTHOUSAND
baY
bb THOUSAND
vFIFTY
ba THOUSAND
xVE
z HUNDRED
baTHOUSAND
wORTY
ba THOUSAND
xUR
z HUNDRED
baTHOUSAND
vNINE
z HUNDRED
baTHOUSAND
zTY
bb THOUSAND
vONE
y HUNDRED
zTHOUSAND
vSEVEN
ba HUNDRED
bbTHOUSAND
baTY
bc THOUSAND
wIX
y HUNDRED
zTHOUSAND
yTY
ba THOUSAND
vTEN
y THOUSAND
wHIRTY
bb THOUSAND
xREE
ba HUNDRED
bbTHOUSAND
wWENTY
bb THOUSAND
xO
y HUNDRED
zTHOUSAND
bUNCE SIGN
cTBOX TRAY
dLINED BLACK STAR
jGREEK CROSS
jLATIN CROSS
jWHITE STAR
bVERHEATED FACE
eLAP
hPING BLACK SQUARES
mWHITE AND BLACK SQUARES
sSQUARES
fINE
bWL
bX
bYSTER
aPACKAGE
cD
dDING CHARACTER
cGE
e FACING UP
fWITH CIRCLED TEXT
lURL
eR
eS
dODA
cHAWH HMONG CLAN SIGN FAJ
xHAM
zWJ
xKHAB
yOO
yWM
xLAUJ
yIS
xMUAS
xPHAB
xTHOJ
ySAB
zHEEJ
zWB
xVAJ
yWJ
xXYOOJ
xYAJ
yEEG
oONSONANT AU
xCAU
yHAU
xHAU
yLAU
yNAU
xLAU
xMAU
xNAU
yCHAU
yKAU
yLAU
yTHAU
zSAU
xPLHAU
xQHAU
xRAU
xVAU
xXAU
xYAU
nDIGIT EIGHT
tFIVE
uOUR
tNINE
tONE
tSEVEN
uIX
tTHREE
uWO
tZERO
nMARK CIM HOM
wKES
xHAV
wSO
xUAM
wTAUM
xUB
nNUMBER HUNDRED MILLIONS
bbS
uMILLIONS
uTEN BILLIONS
yTHOUSANDS
xS
vRILLIONS
nSIGN AV
sCIM CHEEM
xUAM TSHOOJ
wHAIS LUS NTOG NTOG
wNRES TOS
wPUB DAWB
wTSOV ROG
xXWV
ba CHWV
sHLI
tNUB
sIB YAM
sLOS
sMEEJ SUAB
xTSEEB
tUS
sNQIG
tTUJ
sTAU
tHIRD-STAGE HLI
tXHEEJ CEEV
sVOS FEEM
wLUB
wNRUA
wSEEV
wTHIAB
yOM
xSHAB CEEB
sXAUS
tIAB
tYEEM FAIB
yNTXIV
yRHO
yTOV
uOO
sZWJ THAJ
nVOWEL KAAB
wV
vB
vIB
wV
vUB
wV
vV
vWB
wV
uEB
vEB
wV
vV
uIAB
wV
vB
vV
uOB
vOB
wV
vV
uUAB
wV
vB
vV
uWB
vV
cLLAS
dM BRANCH
fDOWN HAND
fTREE
fUP HAND
eS UP TOGETHER
eYRENE LEFT-POINTING FLEURON
mTTER ALEPH
sYIN
rBETH
rDALETH
rFINAL NUN
rGIMEL
rHE
tTH
rKAPH
rLAMEDH
rMEM
rNUN
rPE
rQOPH
rRESH
rSADHE
tMEKH
sHIN
rTAW
sETH
rWAW
rYODH
rZAYIN
kNUMBER FIVE
sOUR
rONE
rTEN
sHREE
sWENTY
tO
kRIGHT-POINTING FLEURON
cNCAKES
dDA FACE
cPERCLIP
cRACHUTE
eGRAPH SEPARATOR
jOS
jUS MARK
eLLEL TO
jWITH HORIZONTAL STROKE
oTILDE OPERATOR
dENTHESIZED DIGIT EIGHT
uFIVE
vOUR
uNINE
uONE
uSEVEN
vIX
uTHREE
vWO
oHANGUL CHIEUCH
bc A
wIEUC
ba A
bbU
vHIEUH
ba A
vIEUNG
ba A
vKHIEUKH
bc A
wIYEOK
bb A
vMIEUM
ba A
vNIEUN
ba A
vPHIEUPH
bc A
wIEUP
ba A
vRIEUL
ba A
vSIOS
z A
vTHIEUTH
bc A
wIKEUT
bb A
oIDEOGRAPH ALLIANCE
yCALL
zONGRATULATION
yEARTH
zIGHT
zNTERPRISE
yFESTIVAL
zINANCIAL
baRE
baVE
zOUR
yHAVE
yLABOR
yMETAL
zOON
yNAME
zINE
yONE
yREACH
baPRESENT
baSOURCE
bbT
ySELF
baVEN
zIX
zOCIETY
zPECIAL
zTOCK
baUDY
zUN
baPERVISE
yTEN
zHREE
zWO
yWATER
zOOD
oKOREAN CHARACTER O HU
bgJEON
oLATIN CAPITAL LETTER A
bjB
bjC
bjD
bjE
bjF
bjG
bjH
bjI
bjJ
bjK
bjL
bjM
bjN
bjO
bjP
bjQ
bjR
bjS
bjT
bjU
bjV
bjW
bjX
bjY
bjZ
uSMALL LETTER A
bhB
bhC
bhD
bhE
bhF
bhG
bhH
bhI
bhJ
bhK
bhL
bhM
bhN
bhO
bhP
bhQ
bhR
bhS
bhT
bhU
bhV
bhW
bhX
bhY
bhZ
oNUMBER EIGHTEEN
wLEVEN
vFIFTEEN
wOURTEEN
vNINETEEN
vSEVENTEEN
wIXTEEN
vTEN
wHIRTEEN
wWELVE
yNTY
dROT
dT ALTERNATION MARK
eIAL DIFFERENTIAL
iLINE BACKWARD
nDOWN
nFORWARD
nUP
hLY-RECYCLED PAPER SYMBOL
eNERSHIP SIGN
eY POPPER
cSSED SYMBOL
fNGER SHIP
eIVE-PULL-DOWN-OUTPUT SYMBOL
nUP-OUTPUT SYMBOL
ePORT CONTROL
cU CIN HAU GLOTTAL STOP
y FINAL
zVARIANT
mLETTER A
tBA
tCA
uHA
tDA
tE
tFA
uINAL K
zL
zM
zN
baG
zP
zT
zW
zY
tGA
tHA
tI
uA
tKA
uHA
tLA
tMA
tNA
uGA
tO
tPA
uHA
tRA
tSA
tTA
uHA
tU
uA
tVA
tZA
nOW-FALLING TONE
bc FINAL
bdLONG
bh FINAL
mMID-LEVEL TONE
ba FINAL
bbLONG FINAL
mRISING TONE
x FINAL
yLONG
bc FINAL
mSANDHI GLOTTAL STOP
bf FINAL
tTONE
x FINAL
yLONG
bc FINAL
cW PRINTS
bDF
cI
bEACE SYMBOL
eH
eOCK
dNUTS
dR
cDESTRIAN
cN OVER STAMPED ENVELOPE
dCIL
dGUIN
dSIVE FACE
dTAGRAM
cOPLE HUGGING
cR MILLE SIGN
eSIGN
eTEN THOUSAND SIGN
dCENT SIGN
dFORMING ARTS
dMANENT PAPER SIGN
dPENDICULAR
n WITH S
dSEVERING FACE
eON BOWING DEEPLY
hCLIMBING
hDOING CARTWHEEL
hFROWNING
hIN LOTUS POSITION
kSTEAMY ROOM
hRAISING BOTH HANDS IN CELEBRATION
hWITH BALL
nLOND HAIR
mCROWN
mFOLDED HANDS
mHEADSCARF
mPOUTING FACE
gAL COMPUTER
ePECTIVE
cSETA SIGN
dO SIGN
cTRI DISH
bHAGS-PA DOUBLE HEAD MARK
jLETTER A
rLTERNATE YA
rSPIRATED FA
qBA
qCA
sNDRABINDU
rHA
qDA
rDA
rZA
qE
rE
qFA
qGA
rGA
qHA
qI
qJA
qKA
rHA
qLA
qMA
qNA
rGA
rNA
rYA
qO
qPA
rHA
qQA
qRA
qSA
rHA
rMALL A
qTA
rHA
rSA
sHA
rTA
sHA
qU
qVOICED HA
vLESS SHA
qWA
qXA
qYA
qZA
rHA
jMARK DOUBLE SHAD
oSHAD
jSINGLE HEAD MARK
kUBJOINED LETTER RA
baWA
baYA
lPERFIXED LETTER RA
dISTOS DISC SIGN ARROW
tBEE
wHIVE
uOOMERANG
vW
uULLS LEG
tCAPTIVE
vRPENTRY PLANE
vT
uHILD
uLUB
uOLUMN
vMB
xINING OBLIQUE STROKE
tDOLIUM
vVE
tEAGLE
tFLUTE
tGAUNTLET
uRATER
tHELMET
uIDE
uORN
tLID
vLY
tMANACLES
vTTOCK
tOX BACK
tPAPYRUS
uEDESTRIAN
uLANE TREE
vUMED HEAD
tRAM
uOSETTE
tSAW
uHIELD
wP
uLING
uMALL AXE
uTRAINER
tTATTOOED HEAD
uIARA
uUNNY
tVINE
tWAVY BAND
uOMAN
cILIPPINE DOUBLE PUNCTUATION
lSINGLE PUNCTUATION
cOENICIAN LETTER AIN
tLF
sBET
sDELT
sGAML
sHE
uT
sKAF
sLAMD
sMEM
sNUN
sPE
sQOF
sROSH
sSADE
tEMK
tHIN
sTAU
tET
sWAU
sYOD
sZAI
lNUMBER ONE
v HUNDRED
sTEN
tHREE
tWENTY
uO
lWORD SEPARATOR
dLUS
bICK
eUP TRUCK
cE
cG
d FACE
eNOSE
cLCROW SIGN
dE OF POO
dL
cNATA
dCHED FINGERS
fING HAND
dE DECORATION
eAPPLE
dWHEEL STAR
cSCES
dTOL
cTCHFORK
j WITH TEE TOP
bLACARD
eE OF INTEREST SIGN
jWORSHIP
dNCK CONSTANT
p OVER TWO PI
dYGROUND SLIDE
eING CARD ACE OF CLUBS
uDIAMONDS
uHEARTS
uSPADES
nBACK
oLACK JOKER
nEIGHT OF CLUBS
wDIAMONDS
wHEARTS
wSPADES
nFIVE OF CLUBS
vDIAMONDS
vHEARTS
vSPADES
oOOL
pUR OF CLUBS
vDIAMONDS
vHEARTS
vSPADES
nJACK OF CLUBS
vDIAMONDS
vHEARTS
vSPADES
nKING OF CLUBS
vDIAMONDS
vHEARTS
vSPADES
oNIGHT OF CLUBS
xDIAMONDS
xHEARTS
xSPADES
nNINE OF CLUBS
vDIAMONDS
vHEARTS
vSPADES
nQUEEN OF CLUBS
wDIAMONDS
wHEARTS
wSPADES
nRED JOKER
nSEVEN OF CLUBS
wDIAMONDS
wHEARTS
wSPADES
oIX OF CLUBS
uDIAMONDS
uHEARTS
uSPADES
nTEN OF CLUBS
uDIAMONDS
uHEARTS
uSPADES
oHREE OF CLUBS
wDIAMONDS
wHEARTS
wSPADES
oRUMP-1
u0
u1
u2
u3
u4
u5
u6
u7
u8
u9
t2
u0
u1
t3
t4
t5
t6
t7
t8
t9
oWO OF CLUBS
uDIAMONDS
uHEARTS
uSPADES
nWHITE JOKER
cD
cU
dNGER
dS SIGN
j ABOVE EQUALS SIGN
kIN LEFT HALF CIRCLE
nRIGHT HALF CIRCLE
nTRIANGLE
kWITH BLACK TRIANGLE
pCIRCUMFLEX ACCENT ABOVE
pDOT BELOW
pSMALL CIRCLE ABOVE
qUBSCRIPT TWO
pTILDE ABOVE
vBELOW
e-MINUS SIGN
dTO
f FORM FIVE
mOUR
lTHREE
mWO
bM
bOCKET CALCULATOR
cLICE CAR
kS REVOLVING LIGHT
hOFFICER
cODLE
cP DIRECTIONAL FORMATTING
qISOLATE
dCORN
cRTABLE STEREO
cSEIDON
dITION INDICATOR
dTAL HORN
hMARK
l FACE
eBOX
cT OF FOOD
dABLE WATER SYMBOL
eTO
dTED PLANT
cUCH
dLTRY LEG
dND SIGN
dRING LIQUID
dTING CAT FACE
iFACE
cWER ON SYMBOL
i-OFF SYMBOL
gSLEEP SYMBOL
hYMBOL
bRAYER BEADS
cECEDES
i ABOVE ALMOST EQUAL TO
pEQUALS SIGN
pNOT ALMOST EQUAL TO
tEQUAL TO
pSINGLE-LINE EQUALS SIGN
bbNOT EQUAL TO
jBUT NOT EQUIVALENT TO
jOR EQUAL TO
pIVALENT TO
jUNDER RELATION
dGNANT MAN
jPERSON
jWOMAN
dSCRIPTION TAKE
eENTATION FORM FOR VERTICAL COLON
bhMMA
bfEM DASH
bgN DASH
bgXCLAMATION MARK
bfHORIZONTAL ELLIPSIS
bfIDEOGRAPHIC COMMA
brFULL STOP
bfLEFT ANGLE BRACKET
bkBLACK LENTICULAR BRACKET
bkCORNER BRACKET
blURLY BRACKET
bkDOUBLE ANGLE BRACKET
bkPARENTHESIS
bkSQUARE BRACKET
bkTORTOISE SHELL BRACKET
bkWHITE CORNER BRACKET
bqLENTICULAR BRACKET
bgOW LINE
bfQUESTION MARK
bfRIGHT ANGLE BRACKET
blBLACK LENTICULAR BRACKET
blCORNER BRACKET
bmURLY BRACKET
blDOUBLE ANGLE BRACKET
blPARENTHESIS
blSQUARE BRACKET
blTORTOISE SHELL BRACKET
blWHITE CORNER BRACKET
brLENTICULAR BRACKET
cfKCET
bfSEMICOLON
bfTWO DOT LEADER
bfWAVY LOW LINE
dTZEL
dVIOUS PAGE
cIME
dNCE
gSS
eT SCREEN SYMBOL
fER
h ICON
dVACY MESSAGE
fTE USE ONE
mTWO
l-1
m2
cOBING CANE
dHIBITED SIGN
dJECTIVE
dPERTY LINE
eORTION
kAL TO
dSERPINA
bSALTER PAHLAVI FOUR DOTS WITH CROSS
bfDOT
qLETTER ALEPH
xBETH
xDALETH
xGIMEL
xHE
zTH
xKAPH
xLAMEDH
xMEM-QOPH
xNUN
xPE
xSADHE
zMEKH
yHIN
xTAW
xWAW-AYIN-RESH
xYODH
xZAYIN
qNUMBER FOUR
xONE
ba HUNDRED
xTEN
yHREE
yWENTY
zO
qSECTION MARK
qTURNED SECTION MARK
bU1
c2
cBLIC ADDRESS LOUDSPEAKER
cNCTUATION SPACE
gS ELEVATUS MARK
cRPLE HEART
dSE
cSHPIN
cT LITTER IN ITS PLACE SYMBOL
aQUADRANT LOWER LEFT
pRIGHT
jUPPER LEFT
t AND LOWER LEFT AND LOWER RIGHT
beRIGHT
yUPPER RIGHT AND LOWER LEFT
buRIGHT
pRIGHT
u AND LOWER LEFT
bj AND LOWER RIGHT
fUPLE INTEGRAL OPERATOR
kPRIME
dRTER NOTE
dTERNION INTEGRAL OPERATOR
cESTION EXCLAMATION MARK
jMARK
iED EQUAL TO
cINCUNX
cOTATION MARK
aRABBIT
g FACE
cCCOON
dING CAR
hMOTORCYCLE
cDICAL SYMBOL BOTTOM
eO
f BUTTON
fACTIVE SIGN
cILWAY CAR
iTRACK
dN
eBOW
dSED BACK OF HAND
hCOMMA
hDOT
kTED INTERPOLATION MARKER
hFIST
hHAND
l WITH FINGERS SPLAYED
rPART BETWEEN MIDDLE AND RING FINGERS
hINTERPOLATION MARKER
hMC SIGN
iD SIGN
iR SIGN
hSQUARE
cM
cT
dIO
cZOR
bECEIPT
dORD SEPARATOR
dREATIONAL VEHICLE
dYCLED PAPER SYMBOL
gING SYMBOL FOR GENERIC MATERIALS
vTYPE-1 PLASTICS
ba2 PLASTICS
ba3 PLASTICS
ba4 PLASTICS
ba5 PLASTICS
ba6 PLASTICS
ba7 PLASTICS
cD APPLE
eGIFT ENVELOPE
cFERENCE MARK
cGIONAL INDICATOR SYMBOL LETTER A
bhB
bhC
bhD
bhE
bhF
bhG
bhH
bhI
bhJ
bhK
bhL
bhM
bhN
bhO
bhP
bhQ
bhR
bhS
bhT
bhU
bhV
bhW
bhX
bhY
bhZ
eSTERED SIGN
cJANG CONSONANT SIGN H
wN
xG
wR
hLETTER A
oBA
oCA
oDA
oGA
oHA
oJA
oKA
oLA
oMA
pBA
oNA
pDA
pGA
qGA
pYA
qJA
oPA
oRA
oSA
oTA
oWA
oYA
hSECTION MARK
hVIRAMA
iOWEL SIGN AI
tU
sE
tA
tU
sI
sO
sU
cLIEVED FACE
cMINDER RIBBON
cPLACEMENT CHARACTER
cSPONSE
dTRICTED LEFT ENTRY-1
w2
fOOM
cTURN LEFT
hRIGHT
hSYMBOL
cVERSE CHECKER BOARD
iINDEX
iLIGHT FOUR POINTED PINWHEEL STAR
kNE FEED
iSOLIDUS
p OPERATOR
qPRECEDING SUBSET
qWITH HORIZONTAL STROKE
iTILDE OPERATOR ABOVE LEFTWARDS ARROW
bdRIGHTWARDS ARROW
hD ANGLE
o WITH UNDERBAR
jCOMMA
jDOUBLE PRIME
v QUOTATION MARK
qSTROKE NOT SIGN
jEMPTY SET
jFORKED PARAGRAPHOS
jHAND WITH MIDDLE FINGER EXTENDED
jNOT SIGN
jPILCROW SIGN
kRIME
jQUESTION MARK
jRAISED HAND WITH FINGERS SPLAYED
kIGHT ANGLE
kOTATED FLORAL HEART BULLET
jSANS-SERIF CAPITAL L
kEMICOLON
jTHUMBS DOWN SIGN
qUP SIGN
kILDE
o EQUALS
kRIPLE PRIME
jVICTORY HAND
dOLVING HEARTS
bHINOCEROS
bI
cAL SIGN
cBBON
g ARROW DOWN LEFT
sRIGHT
nLEFT DOWN
sUP
nRIGHT DOWN
tUP
nUP LEFT
qRIGHT
cCE BALL
fCRACKER
cFLE
cGHT AND LOWER ONE EIGHTH BLOCK
kUPPER ONE EIGHTH BLOCK
iGER BUBBLE
jLE
l BRACKET
t WITH DOT
mDOTTED SUBSTITUTION MARKER
mSUBSTITUTION MARKER
mVARIANT WITH SQUARE
mWITH ARC
rDOWNWARDS ZIGZAG ARROW
hRC GREATER-THAN BRACKET
iROW WITH CIRCLED PLUS
rSMALL CIRCLE
gBLACK LENTICULAR BRACKET
mTORTOISE SHELL BRACKET
gCEILING
hORNER BRACKET
hURLY BRACKET
t LOWER HOOK
uMIDDLE PIECE
uUPPER HOOK
gDOTTED SUBSTITUTION BRACKET
iUBLE ANGLE BRACKET
oRROW WITH ROUNDED HEAD
nPARENTHESIS
nQUOTATION MARK
nWIGGLY FENCE
gFISH TAIL
iVE EIGHTHS BLOCK
hLOOR
gHALF BLACK CIRCLE
rSTAR
nOCK
lFOLDER
lMEDIUM SHADE
lRUNNING MAN
iND TELEPHONE RECEIVER
gLOW PARAPHRASE BRACKET
gNORMAL FACTOR SEMIDIRECT PRODUCT
gONE EIGHTH BLOCK
kQUARTER BLOCK
hPEN SQUARED DOT
hUTER JOIN
gPARENTHESIS
r EXTENSION
sLOWER HOOK
sUPPER HOOK
gRAISED OMISSION BRACKET
gS-SHAPED BAG DELIMITER
hEMIDIRECT PRODUCT
iVEN EIGHTHS BLOCK
hIDEWAYS U BRACKET
iNGLE QUOTATION MARK
hPEAKER
n WITH ONE SOUND WAVE
tTHREE SOUND WAVES
jECH BUBBLE
hQUARE BRACKET
u EXTENSION
vLOWER CORNER
vUPPER CORNER
vWITH DOUBLE STROKE
baQUILL
baSTROKE
baTICK IN BOTTOM CORNER
biTOP CORNER
baUNDERBAR
hUBSTITUTION BRACKET
gTACK
hHIRD WHITE RIGHT POINTING INDEX
iOUGHT BUBBLE
iREE EIGHTHS BLOCK
mQUARTERS BLOCK
hORTOISE SHELL BRACKET
hRANSPOSITION BRACKET
iIANGLE
o ABOVE LEFT TRIANGLE
mULAR ONE QUARTER BLOCK
gVERTICAL BAR WITH QUILL
qOX LINE
gWHITE CORNER BRACKET
nURLY BRACKET
mLENTICULAR BRACKET
mPARENTHESIS
mSQUARE BRACKET
mTORTOISE SHELL BRACKET
hIGGLY FENCE
f-FACING ARMENIAN ETERNITY SIGN
nFIST
nSVASTI SIGN
y WITH DOTS
gHANDED INTERLACED PENTAGRAM
gPOINTING ANGLE BRACKET
pCURVED ANGLE BRACKET
pDOUBLE ANGLE QUOTATION MARK
pMAGNIFYING GLASS
gSHADED WHITE RIGHTWARDS ARROW
hIDE ARC CLOCKWISE ARROW
gTO-LEFT EMBEDDING
oISOLATE
oMARK
oOVERRIDE
fHAND INTERIOR PRODUCT
fWARDS ARROW
q ABOVE ALMOST EQUAL TO
xREVERSE ALMOST EQUAL TO
bfTILDE OPERATOR
xSHORT LEFTWARDS ARROW
xTILDE OPERATOR
sND UPPER AND LOWER ONE EIGHTH BLOCK
rFROM BAR
z TO BLACK DIAMOND
rOVER LEFTWARDS ARROW
rTHROUGH GREATER-THAN
zSUPERSET
zX
sO BAR
vLACK DIAMOND
rWITH CORNER DOWNWARDS
wDOTTED STEM
yUBLE VERTICAL STROKE
wEQUILATERAL ARROWHEAD
wHOOK
wLARGE TRIANGLE ARROWHEAD
xOOP
wMEDIUM TRIANGLE ARROWHEAD
wNOTCHED TAIL
wPLUS BELOW
wSMALL EQUILATERAL ARROWHEAD
bcTRIANGLE ARROWHEAD
xTROKE
wTAIL
ba WITH DOUBLE VERTICAL STROKE
bgVERTICAL STROKE
xIP DOWNWARDS
baUPWARDS
wVERTICAL STROKE
q-TAIL
lBACK-TILTED SHADOWED WHITE ARROW
mLACK ARROW
rCIRCLED WHITE ARROW
mOTTOM SHADED WHITE ARROW
lCOMPRESSED ARROW
lDASHED ARROW
mOUBLE ARROW
x FROM BAR
yWITH STROKE
bdVERTICAL STROKE
x-TAIL
sDASH ARROW
lFINGER-POST ARROW
mRONT-TILTED SHADOWED WHITE ARROW
lHAND
nRPOON OVER LEFTWARDS HARPOON
tWITH BARB DOWN ABOVE LEFTWARDS HARPOON WITH BARB DOWN
biBELOW LONG DASH
biFROM BAR
biTO BAR
bhWARDS
bdUP ABOVE LEFTWARDS HARPOON WITH BARB UP
bnONG DASH
bmRIGHTWARDS HARPOON WITH BARB DOWN
bgFROM BAR
bgTO BAR
bfWARDS
mEAVY ARROW
rCOMPRESSED ARROW
lLEFT-SHADED WHITE ARROW
lOPEN-HEADED ARROW
lPAIRED ARROWS
lQUADRUPLE ARROW
lRIGHT-SHADED WHITE ARROW
mOCKET
lSANS-SERIF ARROW
mQUARED ARROW
oIGGLE ARROW
lTOP SHADED WHITE ARROW
mRIANGLE ARROWHEAD
t-HEADED ARROW
bg OVER LEFTWARDS TRIANGLE-HEADED ARROW
bhTO BAR
bhWITH BOLD SHAFT
bmDOUBLE HORIZONTAL STROKE
btVERTICAL STROKE
bmHEAVY SHAFT
bmLONG TIP DOWNWARDS
bvUPWARDS
bmMEDIUM SHAFT
bmNARROW SHAFT
bmVERY HEAVY SHAFT
bbDASHED ARROW
bbPAIRED ARROWS
oPLE ARROW
sDASH ARROW
mWO HEADED ARROW
o-HEADED ARROW FROM BAR
bcWITH DOUBLE VERTICAL STROKE
bhTAIL
bl WITH DOUBLE VERTICAL STROKE
brVERTICAL STROKE
biRIANGLE ARROWHEADS
bhVERTICAL STROKE
wTRIPLE DASH ARROW
lWAVE ARROW
mHITE ARROW
w FROM WALL
xWITHIN TRIANGLE ARROWHEAD
cNG
e ABOVE
fBUOY
fEQUAL TO
fIN EQUAL TO
fOPERATOR
fPOINT
eED PLANET
eING BELL
cSING DIAGONAL CROSSING FALLING DIAGONAL
zSOUTH EAST ARROW
bLE
cI
cM
cO
bOASTED SWEET POTATO
cBOT FACE
cCK
eET
cLL OF PAPER
eED-UP NEWSPAPER
fR COASTER
hSKATE
eING ON THE FLOOR LAUGHING
cMAN AS SIGN
gCENTURIAL SIGN
gDENARIUS SIGN
hIMIDIA SEXTULA SIGN
hUPONDIUS SIGN
gNUMERAL EIGHT
pLEVEN
oFIFTY
t EARLY FORM
uTHOUSAND
qVE
s HUNDRED
tTHOUSAND
pOUR
oNINE
oONE
r HUNDRED
z THOUSAND
sTHOUSAND
ba C D
oREVERSED ONE HUNDRED
oSEVEN
pIX
r LATE FORM
oTEN
r THOUSAND
pHREE
pWELVE
qO
gQUINARIUS SIGN
gSEMUNCIA SIGN
iSTERTIUS SIGN
iXTANS SIGN
kULA SIGN
hILIQUA SIGN
gUNCIA SIGN
cOSTER
cSE
eTTE
cTATED CAPITAL Q
iFLORAL HEART BULLET
iHEAVY BLACK HEART BULLET
iLIGHT FOUR POINTED BLACK CUSP
iWHITE FOUR POINTED CUSP
cUND PUSHPIN
gTARGET
fED SYMBOL FOR CAI
tFU
tLU
tSHOU
vUANGXI
tXI
cWBOAT
bS
bUBLE SIGN
cGBY FOOTBALL
cLE-DELAYED
cMI DIGIT EIGHT
lFIVE
mOUR
lNINE
lONE
lSEVEN
mIX
lTHREE
mWO
fFRACTION ONE HALF
sQUARTER
sTHIRD
oTWO THIRDS
fNUMBER EIGHT HUNDRED
rY
mFIFTY
oVE HUNDRED
nORTY
oUR HUNDRED
mNINE HUNDRED
qTY
mONE HUNDRED
mSEVEN HUNDRED
rTY
nIX HUNDRED
pTY
mTEN
nHIRTY
oREE HUNDRED
nWENTY
oO HUNDRED
cNIC ARLAUG SYMBOL
gBELGTHOR SYMBOL
gCROSS PUNCTUATION
gLETTER AC A
oESC
oLGIZ EOLHX
oNSUZ A
nBERKANAN BEORC BJARKAN B
nC
oALC
oEALC
pN
oWEORTH
nD
oAGAZ DAEG D
oOTTED-L
uN
uP
nE
oAR
oHWAZ EH E
oNG
oTH
nFEHU FEOH FE F
oRANKS CASKET AC
bcESC
bbEH
bbIS
bbOS
nG
oAR
oEBO GYFU G
pR
nHAEGL H
pGLAZ H
nICELANDIC-YR
oNG
qWAZ
oOR
oSAZ IS ISS I
oWAZ EOH
nJERAN J
nK
oAUN K
rA
nLAUKAZ LAGU LOGR L
oONG-BRANCH-AR AE
zHAGALL H
zMADR M
zOSS O
zYR
nMANNAZ MAN M
nNAUDIZ NYD NAUD N
nO
oE
oN
oO
oPEN-P
oS O
oTHALAN ETHEL O
nPERTHO PEORTH P
nQ
nRAIDO RAD REID R
nSH
pORT-TWIG-AR A
yBJARKAN B
yHAGALL H
yMADR M
yNAUD N
yOSS O
ySOL S
yTYR T
yYR
oIGEL LONG-BRANCH-SOL S
oOWILO S
oTAN
nTHURISAZ THURS THORN
oIWAZ TIR TYR T
nURUZ UR U
nV
nW
oUNJO WYNN W
nX
nY
oR
nZ
gMULTIPLE PUNCTUATION
gSINGLE PUNCTUATION
gTVIMADUR SYMBOL
dNER
eING SHIRT WITH SASH
cPEE SIGN
cSSIAN ASTROLOGICAL SYMBOL BINOVILE
bcNOVILE
bcQUINTILE
bcSENTAGON
bcTREDECILE
bcVIGINTILE
aS IN TRIANGLE
bAFETY PIN
hVEST
cGITTARIUS
cILBOAT
cKE BOTTLE AND CUP
cLT SHAKER
eIRE
dUTING FACE
cMARITAN ABBREVIATION MARK
kLETTER ALAF
rBAA
sIT
rDALAT
rFI
rGAMAN
rIN
sT
sY
rKAAF
rLABAT
rMIM
rNUN
rQUF
rRISH
rSHAN
sINGAAT
rTAAF
sIT
sSAADIY
rYUT
rZEN
kMARK DAGESH
pEPENTHETIC YUT
pIN
r-ALAF
pNEQUDAA
pOCCLUSION
lODIFIER LETTER EPENTHETIC YUT
baI
baSHORT A
kPUNCTUATION AFSAAQ
xNGED
yNAAU
xRKAANU
xTMAAU
wBAU
wMELODIC QITSA
wNEQUDAA
wQITSA
wSHIYYAALAA
xOF MASHFAAT
wTURU
wZAEF
xIQAA
kVOWEL SIGN A
wA
vE
vI
vLONG A
bbA
baE
baI
baU
vO
wVERLONG A
bfA
vSHORT A
wUKUN
vU
cNDWICH
dS-SERIF HEAVY DOUBLE COMMA QUOTATION MARK ORNAMENT
yTURNED COMMA QUOTATION MARK ORNAMENT
rLOW DOUBLE COMMA QUOTATION MARK ORNAMENT
lINTERROBANG ORNAMENT
cRI
cTELLITE
j ANTENNA
dURN
cURASHTRA CONSONANT SIGN HAARU
lDANDA
mIGIT EIGHT
rFIVE
sOUR
rNINE
rONE
rSEVEN
sIX
rTHREE
sWO
rZERO
mOUBLE DANDA
lLETTER A
tA
tI
tU
sBA
tHA
sCA
tHA
sDA
tDA
uHA
tHA
sE
tE
sGA
tHA
sHA
sI
tI
sJA
tHA
sKA
tHA
sLA
tLA
sMA
sNA
tGA
tNA
tYA
sO
tO
sPA
tHA
sRA
sSA
tHA
tSA
sTA
tHA
tTA
uHA
sU
tU
sVA
tOCALIC L
bbL
baR
bbR
sYA
lSIGN ANUSVARA
qCANDRABINDU
qVIRAMA
sSARGA
lVOWEL SIGN AA
xI
xU
wE
xE
wI
xI
wO
xO
wU
xU
wVOCALIC L
bfL
beR
bfR
eOPOD
cXOPHONE
bCALES
dRF
cHOOL
g SATCHEL
cI
cOOTER
dRPION
gUS
cREEN
eWDRIVER
dIPT CAPITAL B
pE
pF
pH
pI
pL
pM
pP
pR
hLIGATURE ET ORNAMENT
hSMALL E
nG
nL
nO
dOLL
dUPLE
bEAL
dT
cCOND PLACE MEDAL
dTION SIGN
eOR
cDNA
cE-NO-EVIL MONKEY
dDLING
cGMENT
hED DIGIT EIGHT
qFIVE
rOUR
qNINE
qONE
qSEVEN
rIX
qTHREE
rWO
qZERO
cLFIE
cMICOLON
eDIRECT PRODUCT WITH BOTTOM CLOSED
eSEXTILE
cPARATED SYMBOL
cRIOUS FACE WITH SYMBOLS COVERING MOUTH
dVICE MARK
cSAME DOT
dQUIQUADRATE
cT MINUS
eTRANSMIT STATE
cWING NEEDLE
cXTILE
bGC
bHADOWED WHITE CIRCLE
pLATIN CROSS
pSTAR
dLLOW PAN OF FOOD
dMROCK
dRADA ABBREVIATION SIGN
iCONTINUATION SIGN
iDANDA
jIGIT EIGHT
oFIVE
pOUR
oNINE
oONE
oSEVEN
pIX
oTHREE
pWO
oZERO
jOUBLE DANDA
iEKAM
jXTRA SHORT VOWEL MARK
iHEADSTROKE
iLETTER A
qA
qI
qU
pBA
qHA
pCA
qHA
pDA
qDA
rHA
qHA
pE
pGA
qHA
pHA
pI
qI
pJA
qHA
pKA
qHA
pLA
qLA
pMA
pNA
qGA
qNA
qYA
pO
pPA
qHA
pRA
pSA
qHA
qSA
pTA
qHA
qTA
rHA
pU
qU
pVA
qOCALIC L
yL
xR
yR
pYA
iOM
iSANDHI MARK
jECTION MARK-1
v2
kPARATOR
jIGN ANUSVARA
oVAGRAHA
nCANDRABINDU
nINVERTED CANDRABINDU
nJIHVAMULIYA
nNUKTA
nSIDDHAM
nUPADHMANIYA
nVIRAMA
pSARGA
jUTRA MARK
iVOWEL MODIFIER MARK
oSIGN AA
uI
uU
tE
tI
uI
tO
tPRISHTHAMATRA E
tU
uU
tVOCALIC L
bcL
bbR
bcR
eK
dVED ICE
eIAN LETTER ADO
qGE
qH
qIR
qRE
rRAY
qSH
qWE
pBIB
pCHURCH
pDEAD
pEAR
rT
qGG
qRR
pFEE
pGAG
pHA-HA
qUNG
pIAN
qCE
qF
pJUDGE
pKICK
pLOLL
pMEASURE
qIME
pNUN
pOAK
qIL
qN
qOZE
qR
qUT
pPEEP
pROAR
pSO
qURE
pTHEY
rIGH
qOT
pUP
pVOW
pWOE
rOL
pYEA
rW
pZOO
cEEP
cIELD
dFT IN
gOUT
dNTO SHRINE
dP
cOCKED FACE WITH EXPLODING HEAD
dOTING STAR
dPPING BAGS
jTROLLEY
dRT BACKSLANTED SOUTH ARROW
hENT ARROW POINTING DOWNWARDS THEN NORTH EAST
gDOWN TACK
p WITH OVERBAR
gLEFT TACK
gRIGHTWARDS ARROW ABOVE LEFTWARDS ARROW
gSLANTED NORTH ARROW
gUP TACK
n ABOVE SHORT DOWN TACK
oWITH UNDERBAR
fCAKE
fHAND FORMAT CONTINUING OVERLAP
rDOWN STEP
rLETTER OVERLAP
rUP STEP
fS
dULDERED OPEN BOX
dWER
cRIMP
dUG
cUFFLE PRODUCT
cY
bI
cDDHAM DANDA
jOUBLE DANDA
iEND OF TEXT MARK
iLETTER A
qA
qI
qLTERNATE U
qU
pBA
qHA
pCA
qHA
pDA
qDA
rHA
qHA
pE
pGA
qHA
pHA
pI
qI
pJA
qHA
pKA
qHA
pLA
pMA
pNA
qGA
qNA
qYA
pO
pPA
qHA
pRA
pSA
qHA
qSA
pTA
qHA
rREE-CIRCLE ALTERNATE I
qTA
rHA
qWO-CIRCLE ALTERNATE I
blI
pU
qU
pVA
qOCALIC L
yL
xR
yR
pYA
iREPETITION MARK-1
y2
y3
iSECTION MARK DOUBLE RING
bg WITH RAYS
vWITH CIRCLES AND FOUR ENCLOSURES
bmRAYS
bmTWO ENCLOSURES
baDOUBLE CRESCENTS
baQUADRUPLE CRESCENTS
baRAYS AND DOTTED CRESCENTS
bqDOUBLE CRESCENTS
bqTRIPLE CRESCENTS
baSEPTUPLE CRESCENTS
baTRIDENT AND DOTTED CRESCENTS
bmU-SHAPED ORNAMENTS
bdPLE CRESCENTS
kPARATOR BAR
sDOT
jIGN ANUSVARA
nCANDRABINDU
nNUKTA
nSIDDHAM
nVIRAMA
pSARGA
iVOWEL SIGN AA
uI
uLTERNATE U
beU
uU
tE
tI
uI
tO
tU
uU
tVOCALIC R
bcR
dEWAYS BLACK DOWN POINTING INDEX
pLEFT POINTING INDEX
pRIGHT POINTING INDEX
pUP POINTING INDEX
jWHITE DOWN POINTING INDEX
pLEFT POINTING INDEX
pRIGHT POINTING INDEX
pUP POINTING INDEX
cGN OF THE HORNS
eWRITING AIR BLOW SMALL ROTATIONS
uING OUT
qSUCK SMALL ROTATIONS
uING IN
mBREATH EXHALE
tINHALE
oUSH BETWEEN
sMULTIPLE
sSINGLE
mCHEEKS NEUTRAL
tPUFFED
tSUCKED
nOLON
oMMA
mDREAMY EYEBROWS DOWN NEUTRAL
bcNEUTRAL DOWN
bkUP
bcUP NEUTRAL
nYNAMIC ARROWHEAD LARGE
beSMALL
uEVERY OTHER TIME
uFAST
uGRADUAL
uRELAXED
uSIMULTANEOUS
bg ALTERNATING
vLOW
uTENSE
mEARS
nXCITEMENT
nYE BLINK MULTIPLE
wSINGLE
qWINK
pBROWS STRAIGHT DOWN
beNEUTRAL
beUP
pGAZE-FLOORPLANE CURVED
bfSTRAIGHT
bn ALTERNATING
boDOUBLE
uWALLPLANE CIRCLING
bfURVED
beSTRAIGHT
bm ALTERNATING
bnDOUBLE
pLASHES DOWN
wFLUTTERING
wUP
pS CLOSED
rHALF CLOSED
wOPEN
rOPEN
rSQUEEZED
rWIDE OPEN
vNING MOVEMENT
mFACE DIRECTION POSITION NOSE FORWARD TILTING
bpUP OR DOWN
bz TILTING
nILL MODIFIER-2
ba3
ba4
ba5
ba6
oNGER
nLICK LARGE MULTIPLE
ySINGLE
sSEQUENTIAL
tMALL MULTIPLE
ySINGLE
oOORPLANE SHOULDER HIP MOVE
nOREHEAD CONTACT
vNEUTRAL
vWRINKLED
nULL STOP
mGRASP BETWEEN
sMULTIPLE
sSINGLE
mHAIR
oND-ANGLE
w INDEX
bc MIDDLE LITTLE
bkRING
bdRING LITTLE
bo OUT
bdTHUMB
bi IN
bjOUT
xLITTLE INDEX
bj THUMB INDEX THUMB
cb OUT
beUP
xMIDDLE RING LITTLE
bp IN
bqOUT
xRING DOWN MIDDLE THUMB INDEX CROSS
bcLITTLE
rCIRCLE
x INDEX
bd BENT
beHINGE
beMIDDLE
bk CROSS LITTLE
bqED
blLITTLE
blRING
blTHUMB
beRING LITTLE
yLITTLE INDEX
bfUP
yMIDDLE RING LITTLE
bq BENT
bfUP
yRING LITTLE
sLAW
v FOUR FINGERS CONJOINED
wINDEX THUMB CURVE THUMB INSIDE
wMIDDLE RING LITTLE CONJOINED
by SIDE
wNO THUMB
wTHUMB FORWARD
bcSIDE
sUP
u FIVE FINGERS SPREAD
bo OPEN
vINDEX
ba RING LITTLE
bbTHUMB
bg OPEN
vMIDDLE RING LITTLE
vNO THUMB
vOPEN
z NO THUMB
baTHUMB FORWARD
bgSIDE
vTHUMB FORWARD
bbSIDE
tRLICUE
z INDEX RING LITTLE ON
baMIDDLE RING LITTLE ON
baOPEN
rFIST
v FOUR FINGERS CONJOINED BENT
wHEEL
wINDEX
bb BENT
bg OVER MIDDLE
bcCUPPED
bcHINGED
bi LOW
bjMIDDLE UP
bs THUMB SIDE
bcMIDDLE
bi BENT
bn THUMB STRAIGHT
bjCONJOINED
bs CUPPED
bz THUMB FORWARD
btHINGED
bz THUMB SIDE
btINDEX BENT
btMIDDLE BENT
btTHUMB FORWARD
bzSIDE
cd BENT
ceCONJOINED
bkROSS LITTLE
boED
bq THUMB SIDE
bjHINGED
bp SPREAD THUMB SIDE
bjLITTLE
bjRAISED KNUCKLES
bkING
bn BENT
boCONJOINED
bjSTRAIGHT THUMB BENT
bjTHUMB
bo ANGLED
bv OUT
bpBENT
bpCIRCLED
bqONJOINED HINGED
bqUPPED
bpHINGED
bqOOKED
bjUP SPREAD THUMB FORWARD
bcRAISED KNUCKLE
bdING LITTLE
bcTHUMB ANGLED IN MIDDLE UP
bpOUT MIDDLE UP
biCIRCLE
boD MIDDLE UP
bjUPPED MIDDLE UP
bkRLICUE
blVE THUMB INSIDE
buUNDER
biFORWARD INDEX BENT
bwSTRAIGHT
biHOOK
bmED MIDDLE HINGED
bwUP
biSIDE
bm BOTH BENT
bnINDEX BENT
btHINGE
bnTHUMB BENT
btCONJOINED
btDIAGONAL
bcUP MIDDLE HINGED
bs THUMB CONJOINED
bzSIDE
wLITTLE BENT
bdDOWN
bh OTHERS CIRCLED
biRIPPLE CURVED
bpSTRAIGHT
bdINDEX
bi THUMB
bdRAISED KNUCKLE
bdTHUMB
beOUCHES THUMB
bdUP
wMIDDLE BENT OVER INDEX
bdDOWN
bdLITTLE
bdRAISED KNUCKLE
beING LITTLE
bdTHUMB ANGLED INDEX UP
bqOUT INDEX CROSSED
caUP
bjCIRCLED INDEX HINGED
bxUP
bkUPPED INDEX UP
bjHOOKED INDEX UP
bjLITTLE
bdUP
bf THUMB SIDE
wRING DOWN
bbINDEX
bbLITTLE
bbMIDDLE
bh CONJOINED
biRAISED KNUCKLES
bbRAISED KNUCKLE
bbTHUMB
bbUP
wTHUMB
bb BETWEEN INDEX MIDDLE
bw STRAIGHT
bkMIDDLE RING
bkRING LITTLE
bcFORWARD
bcHEEL
bcOVER FOUR RAISED KNUCKLES
bhTWO FINGERS
bcSIDE BENT
bhCONJOINED
bhDIAGONAL
bcUNDER FOUR FINGERS
biINDEX BENT
biLITTLE UP
biTHREE FINGERS
bjWO FINGERS
sLAT
v BETWEEN PALM FACINGS
wFIVE FINGERS SPREAD
bp BENT
bqFOUR BENT
bqHINGED
bw NO THUMB
bxTHUMB SIDE
bqTHUMB FORWARD
xOUR FINGERS
bi BENT
bjCONJOINED
bs SPLIT
bjHINGED
wHEEL
ba FIVE FINGERS SPREAD
bu BENT
bvFOUR BENT
bbTHUMB SIDE
wSPLIT CENTRE
bi THUMB SIDE
bt BENT
bcINDEX THUMB SIDE
bcLITTLE
wTHUMB BENT
bcFORWARD
bcSIDE
rHINGE
w FIVE FINGERS SPREAD OPEN
yOUR FINGERS CONJOINED
xINDEX
bc HINGED
bdMIDDLE LITTLE
bkRING
bo CONJOINED
bdRING LITTLE
bdTHUMB
bi LARGE
bjOPEN
bjSIDE
bkMALL
xLITTLE
bd INDEX
bj THUMB
beTHUMB
xMIDDLE
bd RING LITTLE
xNO THUMB
xOPEN
bb NO THUMB
bcTHUMB FORWARD
biSIDE
xRING
bb DOWN INDEX THUMB HOOK MIDDLE
xSMALL
xTHUMB BETWEEN MIDDLE RING
bdSIDE
bh TOUCHING INDEX
sOOK
v CURLICUE
wINDEX RING LITTLE IN
boOUT
boUNDER
wMIDDLE RING LITTLE CONJOINED
by IN
bzOUT
bdTHUMB
wRING THUMB
rOVAL
v FIVE FINGERS SPREAD
wINDEX
wLITTLE UP
wNO THUMB
wRING LITTLE
wTHUMB FORWARD
bcSIDE
nEAD
q MOVEMENT CIRCLE
z-FLOORPLANE CURVE
blSTRAIGHT
baWALLPLANE CURVE
bkSTRAIGHT
bkTILT
rRIM
mLIMB COMBINATION
rLENGTH-1
y2
y3
y4
y5
y6
y7
oP LOWER OVER UPPER
qUPPER OVER LOWER
pS PRESSED TOGETHER
nOCATION DEPTH
vHEAD NECK
xIGHT
vLIMBS DIGITS
vTORSO
vWIDTH
u-FLOORPLANE SPACE
vWALLPLANE SPACE
mMOUTH CLOSED CONTACT
zFORWARD
zNEUTRAL
tORNERS
sFROWN
x OPEN
yWRINKLED
sKISS
w FORWARD
xWRINKLED
sOPEN CIRCLE
xFORWARD
xOVAL
bb WRINKLED
bcYAWN
xRECTANGLE
bg WRINKLED
bhYAWN
xWRINKLED
sSMILE
x OPEN
yWRINKLED
sTENSE
x FORWARD
ySUCKED
sWRINKLES DOUBLE
bbSINGLE
oVEMENT-DIAGONAL AWAY LARGE
boST
bjMEDIUM
bjSMALL
beBETWEEN AWAY LARGE
bwST
brMEDIUM
brSMALL
bmTOWARDS LARGE
bzST
buMEDIUM
buSMALL
beTOWARDS LARGE
brST
bmMEDIUM
bmSMALL
vFLOORPLANE ARM CIRCLE HITTING WALL LARGE DOUBLE
ckSINGLE
ceMEDIUM DOUBLE
clSINGLE
ceSMALL DOUBLE
ckSINGLE
bgBEND
bhOX LARGE
bkMEDIUM
bkSMALL
bgCHECK
bhORNER LARGE
bnMEDIUM
bnSMALL
bhROSS
bhURVE COMBINED
bmHITTING CEILING LARGE
ccSMALL
buFLOOR LARGE
caSMALL
bmLARGE
brST
bmMEDIUM
bmSMALL
bgDOUBLE ALTERNATING
by WRIST FLEX
bnSTRAIGHT
bnWRIST FLEX
bgFINGER CIRCLES HITTING WALL DOUBLE
ciSINGLE
boONTACT
bgHUMP HITTING CEILING LARGE DOUBLE
chTRIPLE
cbSMALL DOUBLE
chTRIPLE
btFLOOR LARGE DOUBLE
bzSMALL DOUBLE
bzTRIPLE LARGE TRIPLE
cgSMALL TRIPLE
blSMALL
bgJAW
bgLOOP HITTING CEILING LARGE DOUBLE
chSINGLE
cbSMALL DOUBLE
chSINGLE
btFLOOR LARGE DOUBLE
cfSINGLE
bzSMALL DOUBLE
cfSINGLE
blSMALL
bgPEAKS LARGE
bmMEDIUM
bmSMALL
bgSHAKING PARALLEL
bhINGLE STRAIGHT LARGE
cbST
bwMEDIUM
bwSMALL
bnWRIST FLEX
bgTRIPLE ALTERNATING MOVEMENT
bzWRIST FLEX
bnSTRAIGHT MOVEMENT
bnWRIST FLEX
bgWAVE HITTING CEILING LARGE
cbSMALL
btFLOOR LARGE
bzSMALL
blLARGE
blSMALL
bmNAKE
bhRIST CIRCLE HITTING WALL DOUBLE
cgSINGLE
bgZIGZAG LARGE
bnMEDIUM
bnSMALL
vHINGE DOWN SEQUENTIAL
bbSIDE TO SIDE SCISSORS
bbUP DOWN ALTERNATING LARGE
bvSMALL
bjLARGE
bjSMALL
beSEQUENTIAL
vWALLPLANE ARM CIRCLE MEDIUM DOUBLE
bxSINGLE
bqSMALL DOUBLE
bwSINGLE
bfBEND LARGE
bkMEDIUM
bkSMALL
bgOX LARGE
bjMEDIUM
bjSMALL
bfCHECK LARGE
blMEDIUM
blSMALL
bgORNER LARGE
bmMEDIUM
bmROTATION
bmSMALL
bgROSS
bgURVE HALF-CIRCLE LARGE
ccST
bxMEDIUM
bxSMALL
bmITTING CHEST
btFRONT WALL
blQUARTER LARGE
byST
btMEDIUM
btSMALL
blTHEN STRAIGHT
bnREE-QUARTER CIRCLE MEDIUM
cgSMALL
bkD CROSS MEDIUM
bsSMALL
bfDOUBLE ALTERNATING
bx WRIST FLEX
bmSTRAIGHT
bmWRIST FLEX
bfFINGER CIRCLES DOUBLE
buSINGLE
bnONTACT
bfHUMP HITTING CHEST
bsFRONT WALL
bkLARGE
bkMEDIUM
bkSMALL
bfJAW
bfLOOP HITTING CHEST
bsFRONT WALL
bkLARGE
bkMEDIUM
bkSMALL
bp DOUBLE
bfPEAKS LARGE
blMEDIUM
blSMALL
bfSHAKING
bgINGLE STRAIGHT LARGE
caST
bvMEDIUM
bvSMALL
bmWRIST FLEX
bfTRIPLE ALTERNATING
bx WRIST FLEX
bmSTRAIGHT MOVEMENT
bmWRIST FLEX
bfWAVE CURVE DOUBLE LARGE
bxMEDIUM
bxSMALL
bqTRIPLE LARGE
bxMEDIUM
bxSMALL
bkDIAGONAL PATH LARGE
byMEDIUM
bySMALL
bkHITTING CHEST
bsFRONT WALL
bgRIST CIRCLE FRONT DOUBLE
bySINGLE
bfZIGZAG LARGE
bmMEDIUM
bmSMALL
mNECK
nOSE CONTACT
rNEUTRAL
rWIGGLES
sRINKLES
mPARENTHESIS
mROTATION MODIFIER-10
bf1
bf2
bf3
bf4
bf5
bf6
be2
be3
be4
be5
be6
be7
be8
be9
u-FLOORPLANE ALTERNATING
br HITTING CEILING
caFLOOR
bgDOUBLE
bm HITTING CEILING
bvFLOOR
bgSINGLE
bm HITTING CEILING
bvFLOOR
vWALLPLANE ALTERNATE
bnING HITTING CHEST
bzFRONT WALL
bfDOUBLE
bl HITTING CHEST
buFRONT WALL
bfSINGLE
bl HITTING CHEST
buFRONT WALL
nUB BETWEEN
qMULTIPLE
qSINGLE
mSEMICOLON
nHOULDER HIP POSITIONS
zSPINE
vTILTING FROM WAIST
nQUEEZE FLICK ALTERNATING
uLARGE MULTIPLE
baSINGLE
uSEQUENTIAL
vMALL MULTIPLE
baSINGLE
nTRIKE BETWEEN
tMULTIPLE
tSINGLE
nURFACE BETWEEN
uSYMBOLS
mTEETH
r BITE LIPS
sMOVEMENT
sON LIPS
z MOVEMENT
vTONGUE
bb MOVEMENT
oNSE CHEEKS HIGH
zLOW
zMIDDLE
nONGUE CENTRE INSIDE MOUTH
baSTICKING OUT
tINSIDE MOUTH RELAXED
tLICKING LIPS
tMOVES AGAINST CHEEK
tSTICKING OUT FAR
tTIP BETWEEN LIPS
xTOUCHING INSIDE MOUTH
oRSO-FLOORPLANE TWISTING
sWALLPLANE CURVED BEND
bcSTRAIGHT STRETCH
oUCH BETWEEN
sMULTIPLE
sSINGLE
nRAVEL-FLOORPLANE ROTATION-FLOORPLANE ALTERNATING
byDOUBLE
bySINGLE
bnWALLPLANE ALTERNATING
bxDOUBLE
bxSINGLE
beSHAKING
tWALLPLANE ARM SPIRAL DOUBLE
boSINGLE
boTRIPLE
bdROTATION-FLOORPLANE ALTERNATING
bxDOUBLE
bxSINGLE
bmWALLPLANE ALTERNATING
bwDOUBLE
bwSINGLE
bdSHAKING
mUPPER BODY TILTING FROM HIP JOINTS
mWALLPLANE SHOULDER HIP MOVE
cLHOUETTE OF JAPAN
cMILAR ABOVE GREATER-THAN ABOVE EQUALS SIGN
oLESS-THAN ABOVE EQUALS SIGN
iMINUS SIMILAR
iOR GREATER-THAN
lLESS-THAN
cNE WAVE
dGLE CHARACTER INTRODUCER
hGRAPHIC CHARACTER INTRODUCER
hHIGH-REVERSED-9 QUOTATION MARK
hLEFT-POINTING ANGLE QUOTATION MARK
iOW-9 QUOTATION MARK
hRIGHT-POINTING ANGLE QUOTATION MARK
hSHIFT THREE
oWO
g-SHIFT-2
n3
dHALA ARCHAIC DIGIT EIGHT
wFIVE
xOUR
wNINE
wONE
wSEVEN
xIX
wTHREE
xWO
qNUMBER EIGHTY
xFIFTY
yORTY
xNINETY
xONE HUNDRED
bbTHOUSAND
xSEVENTY
yIXTY
xTEN
yHIRTY
yWENTY
iLETTER AAYANNA
qEEYANNA
rYANNA
qIYANNA
qLPAPRAANA BAYANNA
baCAYANNA
baDAYANNA
bbDAYANNA
baGAYANNA
baJAYANNA
baKAYANNA
baPAYANNA
baTAYANNA
bbTAYANNA
qMBA BAYANNA
qUYANNA
qYANNA
pDANTAJA LAYANNA
xNAYANNA
xSAYANNA
pEEYANNA
qYANNA
pFAYANNA
pHAYANNA
pIIYANNA
qLUUYANNA
sYANNA
qRUUYANNA
sYANNA
qYANNA
pKANTAJA NAASIKYAYA
pMAHAAPRAANA BAYANNA
bbCAYANNA
bbDAYANNA
bcDAYANNA
bbGAYANNA
bbJAYANNA
bbKAYANNA
bbPAYANNA
bbTAYANNA
bcTAYANNA
rYANNA
qUURDHAJA LAYANNA
zNAYANNA
zSAYANNA
pOOYANNA
qYANNA
pRAYANNA
pSANYAKA DAYANNA
yDAYANNA
xGAYANNA
xJAYANNA
pTAALUJA NAASIKYAYA
xSANYOOGA NAAKSIKYAYA
zYANNA
pUUYANNA
qYANNA
pVAYANNA
pYAYANNA
jITH DIGIT EIGHT
tFIVE
uOUR
tNINE
tONE
tSEVEN
uIX
tTHREE
uWO
tZERO
iPUNCTUATION KUNDDALIYA
iSIGN AL-LAKUNA
oNUSVARAYA
nCANDRABINDU
nVISARGAYA
iVOWEL SIGN AELA-PILLA
tDIGA AEDA-PILLA
yGAETTA-PILLA
baYANUKITTA
yIS-PILLA
yKOMBUVA
yPAA-PILLA
tGAETTA-PILLA
vYANUKITTA
tKETTI AEDA-PILLA
zIS-PILLA
zPAA-PILLA
uOMBU DEKA
yVA
ba HAA AELA-PILLA
bfDIGA AELA-PILLA
bfGAYANUKITTA
cX PETALLED BLACK AND WHITE FLORETTE
fOINTED BLACK STAR
mPINWHEEL STAR
mSTAR WITH MIDDLE DOT
d-PER-EM SPACE
dTEEN POINTED ASTERISK
bKATEBOARD
cI AND SKI BOOT
dER
cULL
f AND CROSSBONES
dNK
bLANTED EQUAL TO OR GREATER-THAN
bg WITH DOT INSIDE
uLESS-THAN
bd WITH DOT INSIDE
iNORTH ARROW WITH HOOKED HEAD
bbRIZONTAL TAIL
dVONIC ASTERISK
cED
dEPING ACCOMMODATION
jFACE
jSYMBOL
fY FACE
dUTH OR SPY
cICE OF PIZZA
dGHTLY FROWNING FACE
jSMILING FACE
cOPE
eING LARGE AND
oOR
dT MACHINE
eH
bMALL AIRPLANE
hMPERSAND
hSTERISK
gBLUE DIAMOND
gCOLON
iMMA
kERCIAL AT
iNTAINS AS MEMBER
pWITH OVERBAR
uVERTICAL BAR AT END OF HORIZONTAL STROKE
gDOLLAR SIGN
gELEMENT OF
q WITH OVERBAR
wVERTICAL BAR AT END OF HORIZONTAL STROKE
hM DASH
hQUALS SIGN
hXCLAMATION MARK
gFULL STOP
gGREATER-THAN SIGN
gHYPHEN-MINUS
gIDEOGRAPHIC COMMA
gLEFT CURLY BRACKET
lPARENTHESIS
lTORTOISE SHELL BRACKET
iSS-THAN SIGN
gNUMBER SIGN
gORANGE DIAMOND
gPERCENT SIGN
hLUS SIGN
gQUESTION MARK
gREVERSE SOLIDUS
hIGHT CURLY BRACKET
mPARENTHESIS
mTORTOISE SHELL BRACKET
hOMAN NUMERAL EIGHT
vLEVEN
uFIFTY
wVE
y HUNDRED
vOUR
uNINE
uONE
x HUNDRED
yTHOUSAND
uSEVEN
vIX
uTEN
vHREE
vWELVE
wO
gSEMICOLON
gTILDE
hWO DOTS OVER ONE DOT PUNCTUATION
gVEE WITH UNDERBAR
fER THAN
m OR EQUAL TO
dSH PRODUCT
cILE
eING CAT FACE WITH HEART-SHAPED EYES
wOPEN MOUTH
iFACE WITH HALO
tEART-SHAPED EYES
tORNS
sOPEN MOUTH
bc AND COLD SWEAT
bhSMILING EYES
bhTIGHTLY-CLOSED EYES
sSMILING EYES
be AND HAND COVERING MOUTH
bjTHREE HEARTS
tUNGLASSES
sTEAR
dRKING FACE
cOKING SYMBOL
bNAIL
dKE
cEEZING FACE
cOW CAPPED MOUNTAIN
eBOARDER
eFLAKE
eMAN
h WITHOUT SNOW
bO
cCCER BALL
dKS
cFT HYPHEN
fICE CREAM
fSHELL FLOPPY DISK
eBALL
eWARE-FUNCTION SYMBOL
cGDIAN COMBINING CURVE ABOVE
yBELOW
sDOT ABOVE
wBELOW
sHOOK ABOVE
xBELOW
sLONG HOOK BELOW
sRESH BELOW
sSTROKE BELOW
sTWO DOTS ABOVE
bbBELOW
iINDEPENDENT SHIN
iLETTER ALEPH
qYIN
pBETH
pFETH
pGIMEL
pHE
rTH
pKAPH
pLAMEDH
qESH
pMEM
pNUN
pPE
pRESH-AYIN
pSADHE
rMEKH
qHIN
pTAW
pWAW
pYODH
pZAYIN
iNUMBER ONE
s HUNDRED
pTEN
qWENTY
iPUNCTUATION CIRCLE WITH DOT
uHALF CIRCLE WITH DOT
uTWO CIRCLES WITH DOTS
yVERTICAL BARS
bl WITH DOTS
cH
cLID QUILT SQUARE ORNAMENT
bb IN BLACK SQUARE
fUS
h WITH OVERBAR
cM SIGN
cON WITH RIGHTWARDS ARROW ABOVE
cRA SOMPENG DIGIT EIGHT
tFIVE
uOUR
tNINE
tONE
tSEVEN
uIX
tTHREE
uWO
tZERO
nLETTER AH
uBAH
uCAH
uDAH
uEEH
vH
uGAH
uHAH
uIH
uJAH
uKAH
uLAH
uMAE
wH
uNAH
vGAH
vYAH
uOH
uPAH
uRAH
uSAH
uTAH
uUH
uVAH
uYAH
cS
cUND RECORDING COPYRIGHT
dTH EAST ARROW
q AND SOUTH WEST ARROW
rCROSSING NORTH EAST ARROW
rTO CORNER
rWITH HOOK
lBLACK ARROW
lDOUBLE ARROW
lPOINTING BUD
uLEAF
uVINE LEAF
lSANS-SERIF ARROW
lTRIANGLE-HEADED ARROW
bg TO BAR
lWHITE ARROW
gWEST ARROW
q AND NORTH WEST ARROW
rWITH HOOK
lBLACK ARROW
lDOUBLE ARROW
lPOINTING BUD
uLEAF
uVINE LEAF
lSANS-SERIF ARROW
lTRIANGLE-HEADED ARROW
bg TO BAR
lWHITE ARROW
cYOMBO CLUSTER-INITIAL LETTER LA
bfRA
bfSA
bgHA
iFINAL CONSONANT SIGN -A
bdB
bdD
bdG
bdK
bdL
bdM
bdN
beG
bdR
bdS
beH
iGEMINATION MARK
iHEAD MARK WITH MOON AND SUN
bj AND FLAME
boTRIPLE FLAME
iLETTER -A
pA
pBA
qHA
pCA
qHA
pDA
qDA
rHA
qHA
qZA
pGA
qHA
pHA
pJA
qHA
pKA
qHA
qSSA
pLA
pMA
pNA
qGA
qNA
qYA
pPA
qHA
pRA
pSA
qHA
qSA
pTA
qHA
qSA
rHA
qTA
rHA
pVA
pYA
pZA
qHA
iMARK DOUBLE SHAD
nPLUTA
nSHAD
nTSHEG
iSIGN ANUSVARA
nJIHVAMULIYA
nUPADHMANIYA
nVISARGA
jUBJOINER
iTERMINAL MARK-1
w2
iVOWEL LENGTH MARK
oSIGN AI
uU
tE
tI
tO
uE
tU
uE
tVOCALIC L
bbR
bP
cA
dCE
dGHETTI
dRKLE
hS
gING HEART
cEAK-NO-EVIL MONKEY
fER
h WITH CANCELLATION STROKE
nONE SOUND WAVE
nTHREE SOUND WAVES
fING HEAD IN SILHOUETTE
dECH BALLOON
eDBOAT
dSMILO SIGN
cHERICAL ANGLE
p OPENING LEFT
yUP
cIDER
g WEB
dRAL CALENDAR PAD
hNOTE PAD
hSHELL
cLASHING SWEAT SYMBOL
cONGE
dOL OF THREAD
eN
dRTS MEDAL
dUTING WHALE
bQUARE A OVER M
iARU
iM
iNPEA
iPAATO
iRUHUA
iU
hBAARERU
jR
iEETA
iIRU
iORUTO
iQ
iUSSYERU
hC OVER KG
iAL
jP
iC
iD
iM
j CUBED
kSQUARED
iO
jRPORATION
iUP
hDA
jASU
iB
iESI
iJ
iL
iM
j CUBED
kSQUARED
iORU
hEEKAA
iRA NAME HEISEI
qMEIZI
qREIWA
qSYOUWA
qTAISYOU
jG
iSUKUUDO
iV
hFM
iOOT
jUR CORNERS
hGAL
jNMA
jRON
iB
iHZ
iIGA
jNII
jRUDAA
iPA
iURAMU
nTON
iY
hHA
jITU
iEKUTAARU
jRUTU
iG
iIRAGANA HOKA
iON
jON
kRU
iP
jA
iUARADDO
jIITO
jRAN
iZ
hIMAGE OF
p OR EQUAL TO
tNOT EQUAL TO
iN
jINGU
jTI
iU
hK OHM
iA
jIRI
jRATTO
kORII
iB
iCAL
iEESU
iG
iHZ
iIRO
lGURAMU
lMEETORU
lWATTO
iK
iL
iM
j CAPITAL
lUBED
kSQUARED
iOOPO
jRUNA
iPA
iT
iUROONE
kUZEIRO
iV
iW
iYURII
hLEFT OPEN BOX OPERATOR
iM
iN
iOG
jZENGE
iX
hM CUBED
jOHM
kVER S
p SQUARED
jSQUARED
iA
jHHA
jIKURO
kRU
jNSYON
jRUKU
iB
j SMALL
iEETORU
jGA
lTON
iG
iHZ
iIKURON
jL
jRI
lBAARU
iL
iM
j CUBED
kSQUARED
iOL
iPA
iS
iU A
kF
kG
kL
kM
kS
kV
kW
iV
j MEGA
iW
j MEGA
hNA
jNO
iF
iM
iOTTO
iS
iV
iW
hONSU
iOMU
iRIGINAL OF
s OR EQUAL TO
wNOT EQUAL TO
iV
hPA
j AMPS
jASENTO
kTU
iC
iEEZI
jNIHI
kSU
jSO
iF
iH
iIASUTORU
jKO
kURU
iM
iOINTO
jNDO
jSITION INDICATOR
iPM
iR
iS
iV
iW
hRAD
k OVER S
r SQUARED
iEMU
jNTOGEN
iIGHT OPEN BOX OPERATOR
jRA
jTTORU
iOOT
iUPII
jUBURU
hSAIKURU
jNTIIMU
iENTI
lO
iIRINGU
iR
iV
hTARGET
iHZ
iON
hUON
hV OVER M
hWATTO
iB
iITH BOTTOM HALF BLACK
mCONTOURED OUTLINE
mDIAGONAL CROSSHATCH FILL
mHORIZONTAL FILL
mLEFT HALF BLACK
nOWER LEFT DIAGONAL HALF BLACK
sRIGHT DIAGONAL HALF BLACK
mORTHOGONAL CROSSHATCH FILL
mRIGHT HALF BLACK
mTOP HALF BLACK
mUPPER LEFT DIAGONAL HALF BLACK
xTO LOWER RIGHT FILL
sRIGHT DIAGONAL HALF BLACK
yTO LOWER LEFT FILL
mVERTICAL FILL
hYAADO
kRU
iUAN
gD ASTERISK
iCJK UNIFIED IDEOGRAPH-4E00
bh9
bg2D
bg8C
bgA4
be518D
bf21D
bg4D
bg72
bf3CC
bgF3
bf408
bg39
bf5B6
bf8F0
bf91A
bg29
bfB57
bfDE6
bfF8C
be624B
bg53
bg95
bf307
bg55
bf599
bgB0
bf620
bf708
bh9
bfE80
bfF14
be7121
bf51F
bg33
bf981
bfA7A
bfD42
be89E3
bfCA9
bfD70
be904A
bf14D
jL
jOOL
iDOT OPERATOR
iEIGHT K
iFALLING DIAGONAL SLASH
jIVE POINT ONE
jOUR DOT PUNCTUATION
nK
jREE
iHC
jDR
jI-RES
jV
iID
iKATAKANA DE
rKOKO
rSA
jEY
iLATIN CAPITAL LETTER A
bdB
bdC
bdD
bdE
bdF
bdG
bdH
bdI
bdJ
bdK
bdL
bdM
bdN
bdO
bdP
bdQ
bdR
bdS
bdT
bdU
bdV
bdW
bdX
bdY
bdZ
oSMALL LETTER D
jOGICAL AND
qOR
kSSLESS
iMINUS
jV
iNEW
jG
iOK
jNE HUNDRED TWENTY P
iPLUS
jPV
iRISING DIAGONAL SLASH
iSALTIRE
jD
jECOND SCREEN
kVEN POINT ONE
jHV
jIXTY P
jMALL CIRCLE
jOS
jQUARE
jS
iTHREE D
jIMES
jWENTY-TWO POINT TWO
kO K
iUHD
jP WITH EXCLAMATION MARK
iVOD
jS
iWC
eT BLACK RIGHTWARDS ARROW
dID
bS2
c3
cA
bT
cADIUM
dFF OF AESCULAPIUS
jHERMES
dMPED ENVELOPE
dNDING PERSON
dR AND CRESCENT
fEQUALS
fOF DAVID
gPERATOR
fWITH LEFT HALF BLACK
kRIGHT HALF BLACK
eT OF GUARDED AREA
jHEADING
jPROTECTED AREA
jSELECTED AREA
kTRING
jTEXT
dTION
eUE OF LIBERTY
cEAM LOCOMOTIVE
fING BOWL
dNOGRAPHIC FULL STOP
dTHOSCOPE
cICK FIGURE
m LEANING LEFT
vRIGHT
nWITH ARMS RAISED
sDRESS
cOCK CHART
dPWATCH
cRAIGHT RULER
iNESS
eWBERRY
dESS OUTLINED WHITE STAR
dICTLY EQUIVALENT TO
eNG TERMINATOR
cS
cUDIO MICROPHONE
dFFED FLATBREAD
dPA
cX
bUB
dSCRIPT EIGHT
lQUALS SIGN
kFIVE
lOUR
kLEFT PARENTHESIS
kMINUS
kNINE
kONE
kPLUS SIGN
kRIGHT PARENTHESIS
kSEVEN
lIX
kTHREE
lWO
kZERO
eET ABOVE RIGHTWARDS ARROW
nSUBSET
pPERSET
hOF
j ABOVE ALMOST EQUAL TO
qEQUALS SIGN
qNOT EQUAL TO
qTILDE OPERATOR
kOR EQUAL TO
v WITH DOT ABOVE
kWITH NOT EQUAL TO
hWITH DOT
mMULTIPLICATION SIGN BELOW
mPLUS SIGN BELOW
eTITUTE
cCCEEDS
i ABOVE ALMOST EQUAL TO
pEQUALS SIGN
pNOT ALMOST EQUAL TO
tEQUAL TO
pSINGLE-LINE EQUALS SIGN
bbNOT EQUAL TO
jBUT NOT EQUIVALENT TO
jOR EQUAL TO
pIVALENT TO
jUNDER RELATION
cMMATION BOTTOM
kTOP
kWITH INTEGRAL
cN
d BEHIND CLOUD
eWITH FACE
dDANESE AVAGRAHA
kCONSONANT SIGN PAMINGKAL
bbNYAKRA
bdIKU
bbSANGAN MA
biWA
kDIGIT EIGHT
qFIVE
rOUR
qNINE
qONE
qSEVEN
rIX
qTHREE
rWO
qZERO
kLETTER A
sE
rBA
sHA
rCA
rDA
rE
sU
rFA
sINAL K
xM
rGA
rHA
rI
rJA
rKA
sHA
rLA
sEU
rMA
rNA
sGA
sYA
rO
rPA
rQA
rRA
sEU
rSA
sYA
rTA
rU
rVA
rWA
rXA
rYA
rZA
kPUNCTUATION BINDU BA SATANGA
bcCAKRA
bcDA SATANGA
bcKA SATANGA
bcLEU SATANGA
bcPANGLONG
bdURNAMA
bcSURYA
kSIGN PAMAAEH
rNGLAYAR
tWISAD
sYECEK
pVIRAMA
kVOWEL SIGN PAMEPET
xNAELAENG
yEULEUNG
yGHULU
yOLONG
yYUKU
dFLOWER
dRISE
h OVER MOUNTAINS
dSET OVER BUILDINGS
cPERHERO
fSCRIPT EIGHT
nQUALS SIGN
mFIVE
nOUR
mLATIN SMALL LETTER I
bfN
nEFT PARENTHESIS
mMINUS
mNINE
mONE
mPLUS SIGN
mRIGHT PARENTHESIS
mSEVEN
nIX
mTHREE
nWO
mZERO
gET ABOVE LEFTWARDS ARROW
pSUBSET
rPERSET
jBESIDE AND JOINED BY DASH WITH SUBSET
qSUBSET
jOF
l ABOVE ALMOST EQUAL TO
sEQUALS SIGN
sNOT EQUAL TO
sTILDE OPERATOR
mOR EQUAL TO
x WITH DOT ABOVE
mWITH NOT EQUAL TO
jPRECEDING SOLIDUS
jWITH DOT
oMULTIPLICATION SIGN BELOW
oPLUS SIGN BELOW
fVILLAIN
cRFACE INTEGRAL
eER
cSHI
dPENSION RAILWAY
bWAN
dSH AMPERSAND ORNAMENT
cIMMER
cUNG DASH
bYLOTI NAGRI LETTER A
uBHO
vO
uCHO
vO
uDDHO
wO
vHO
vO
uE
uGHO
vO
uHO
uI
uJHO
vO
uKHO
vO
uLO
uMO
uNO
uO
uPHO
vO
uRO
vRO
uSO
uTHO
vO
vTHO
wO
uU
nPOETRY MARK-1
z2
z3
z4
nSIGN ALTERNATE HASANTA
tNUSVARA
sDVISVARA
sHASANTA
nVOWEL SIGN A
yE
yI
yOO
yU
cMBOL FOR ACKNOWLEDGE
lBACKSPACE
mELL
lCANCEL
nRRIAGE RETURN
lDATA LINK ESCAPE
mELETE
r FORM TWO
nVICE CONTROL FOUR
baONE
baTHREE
bbWO
lEND OF MEDIUM
sTEXT
tRANSMISSION
be BLOCK
nQUIRY
mSCAPE
lFILE SEPARATOR
mORM FEED
lGROUP SEPARATOR
lHORIZONTAL TABULATION
lLINE FEED
lMARKS CHAPTER
lNEGATIVE ACKNOWLEDGE
nWLINE
mULL
lRECORD SEPARATOR
lSAMARITAN SOURCE
mHIFT IN
rOUT
mPACE
mTART OF HEADING
uTEXT
mUBSTITUTE
v FORM TWO
mYNCHRONOUS IDLE
lTYPE A ELECTRONICS
lUNIT SEPARATOR
lVERTICAL TABULATION
dMETRY
cN
dAGOGUE
dCHRONOUS IDLE
cRIAC ABBREVIATION MARK
hBARREKH
hCOLON SKEWED LEFT
uRIGHT
jNTRACTION
hDOTTED ZLAMA ANGULAR
uHORIZONTAL
hEND OF PARAGRAPH
iSASA ABOVE
nBELOW
hFEMININE DOT
hHARKLEAN ASTERISCUS
qMETOBELUS
qOBELUS
iBASA ABOVE
nBELOW
m-ESASA DOTTED
iORIZONTAL COLON
hLETTER ALAPH
oBETH
oDALATH
pOTLESS DALATH RISH
oE
oFINAL SEMKATH
oGAMAL
t GARSHUNI
oHE
qTH
oKAPH
oLAMADH
oMALAYALAM BHA
yJA
yLLA
baLA
yNGA
zNA
baNA
zYA
yRA
ySSA
yTTA
pIM
oNUN
oPE
qRSIAN BHETH
wDHALATH
wGHAMAL
oQAPH
oREVERSED PE
pISH
oSADHE
pEMKATH
pHIN
pOGDIAN FE
wKHAPH
wZHAIN
pUPERSCRIPT ALAPH
oTAW
pETH
s GARSHUNI
oWAW
oYUDH
s HE
oZAIN
hMUSIC
hOBLIQUE LINE ABOVE
uBELOW
hPTHAHA ABOVE
oBELOW
oDOTTED
hQUSHSHAYA
hRBASA ABOVE
nBELOW
iUKKAKHA
iWAHA
hSUBLINEAR COLON
w SKEWED LEFT
beRIGHT
rFULL STOP
jPRALINEAR COLON
y SKEWED LEFT
tFULL STOP
hTHREE DOTS ABOVE
sBELOW
iWO VERTICAL DOTS ABOVE
zBELOW
hZQAPHA ABOVE
oBELOW
oDOTTED
eNGE
aT-REX
cSHIRT
bAB
dLE TENNIS PADDLE AND BALL
cCO
cG AMPERSAND
fPOSTROPHE
fSTERISK
eCIRCUMFLEX ACCENT
fOLON
gMMA
iERCIAL AT
eDIGIT EIGHT
kFIVE
lOUR
kNINE
kONE
kSEVEN
lIX
kTHREE
lWO
kZERO
fOLLAR SIGN
eEQUALS SIGN
fXCLAMATION MARK
eFULL STOP
eGRAVE ACCENT
gEATER-THAN SIGN
eHYPHEN-MINUS
eLATIN CAPITAL LETTER A
zB
zC
zD
zE
zF
zG
zH
zI
zJ
zK
zL
zM
zN
zO
zP
zQ
zR
zS
zT
zU
zV
zW
zX
zY
zZ
kSMALL LETTER A
xB
xC
xD
xE
xF
xG
xH
xI
xJ
xK
xL
xM
xN
xO
xP
xQ
xR
xS
xT
xU
xV
xW
xX
xY
xZ
fEFT CURLY BRACKET
jPARENTHESIS
jSQUARE BRACKET
gSS-THAN SIGN
fOW LINE
eNUMBER SIGN
ePERCENT SIGN
fLUS SIGN
eQUESTION MARK
gOTATION MARK
eREVERSE SOLIDUS
fIGHT CURLY BRACKET
kPARENTHESIS
kSQUARE BRACKET
eSEMICOLON
fOLIDUS
fPACE
eTILDE
eVERTICAL LINE
dALOG LETTER A
qRCHAIC RA
pBA
pDA
pGA
pHA
pI
pKA
pLA
pMA
pNA
qGA
pPA
pRA
pSA
pTA
pU
pWA
pYA
iSIGN PAMUDPOD
nVIRAMA
iVOWEL SIGN I
tU
dBANWA LETTER A
qBA
qDA
qGA
qI
qKA
qLA
qMA
qNA
rGA
qPA
qSA
qTA
qU
qWA
qYA
jVOWEL SIGN I
uU
cI LE LETTER A
pI
pUE
oE
pE
pH
oFA
oHA
oI
oKA
pHA
oLA
oMA
oNA
pGA
oO
pO
oPA
pHA
oQA
oSA
oTA
pHA
pONE-2
t3
t4
t5
t6
pSA
qHA
oU
pE
oVA
oXA
oYA
eTHAM COMBINING CRYPTOGRAMMIC DOT
lNSONANT SIGN BA
yFINAL NGA
yHIGH RATHA OR LOW PA
yLA TANG LAI
zOW PA
yMA
zEDIAL LA
bfRA
ySA
jHORA DIGIT EIGHT
uFIVE
vOUR
uNINE
uONE
uSEVEN
vIX
uTHREE
vWO
uZERO
jLETTER A
qBA
qDA
qEE
qGREAT SA
qHIGH CA
wHA
vFA
vHA
vKA
wHA
wXA
vPA
wHA
vRATHA
vSA
wHA
wSA
vTA
wHA
vYA
qI
rI
qLA
sE
rLA
rOW CA
vHA
uFA
uHA
uKA
vHA
vXA
uPA
vHA
uRATHA
uSA
uTA
vHA
uYA
rUE
qMA
qNA
rGA
rYA
qOO
qRA
sNA
sTA
rUE
qU
rU
qWA
jSIGN CAANG
oDOKMAI
oHANG
pOY
oKAAN
sKUU
pEOW
pHUEN TONE-3
z4
z5
t-LUE KARAN
oMAI KANG
w LAI
sSAM
sYAMOK
oRA HAAM
pEVERSED ROTATED RANA
oSAKOT
qTKAAN
vKUU
qWAN
oTONE-1
t2
oWIANG
tWAAK
jTHAM DIGIT EIGHT
uFIVE
vOUR
uNINE
uONE
uSEVEN
vIX
uTHREE
vWO
uZERO
jVOWEL SIGN A
vA
vE
vI
uE
uI
vI
uMAI SAT
uO
vA ABOVE
xBELOW
vO
vY
uTALL AA
vHAM AI
uU
vE
vU
wE
eVIET LETTER HIGH BO
vCHO
wO
vDO
vFO
vGO
vHO
vKHHO
xO
wO
vLO
vMO
vNGO
wO
wYO
vO
vPHO
wO
vRO
vSO
vTHO
wO
vVO
vYO
qLOW BO
uCHO
vO
uDO
uFO
uGO
uHO
uKHHO
wO
vO
uLO
uMO
uNGO
vO
vYO
uO
uPHO
vO
uRO
uSO
uTHO
vO
uVO
uYO
jMAI KANG
oHIT
jSYMBOL HO HOI
qKOI KOI
sN
qNUENG
qSAM
jTONE MAI EK
sNUENG
sSONG
sTHO
jVOWEL AA
qM
qN
qUE
qY
pE
pI
qA
pO
pU
qA
qE
rA
cKEOUT BOX
dRI ABBREVIATION SIGN
gDIGIT EIGHT
mFIVE
nOUR
mNINE
mONE
mSEVEN
nIX
mTHREE
nWO
mZERO
gLETTER A
oA
oI
oRCHAIC KHA
oU
nBA
oHA
nCA
oHA
nDA
oDA
pHA
oHA
nE
nGA
oHA
nHA
nI
oI
nJA
oHA
nKA
oHA
nLA
nMA
nNA
oGA
oNA
oYA
nO
nPA
oHA
nRA
oRA
nSA
oHA
nTA
oHA
oTA
pHA
nU
oU
nVA
nYA
gSIGN ANUSVARA
lNUKTA
lVIRAMA
nSARGA
gVOWEL SIGN AA
sI
sU
rE
rI
sI
rO
rU
sU
cLLY MARK FIVE
lONE
cMALE
dIL AND ODD SIGN
hS ABOVE SIGN
hU LENGTH MARK
gCREDIT SIGN
hURRENT SIGN
gDAY SIGN
hEBIT SIGN
hIGIT EIGHT
mFIVE
nOUR
mNINE
mONE
mSEVEN
nIX
mTHREE
nWO
mZERO
hRY CULTIVATION SIGN
gFRACTION DOWNSCALING FACTOR KIIZH
pONE EIGHTH
yIETH
tFIFTH
uORTIETH
tHALF-1
y2
tONE-HUNDRED-AND-SIXTIETH
tQUARTER
tSIXTEENTH-1
bd2
xY-FOURTH
tTENTH
uHIRTY-SECOND
vREE-HUNDRED-AND-TWENTIETH
uWENTIETH
pTHREE EIGHTIETHS
vQUARTERS
vSIXTEENTHS
zY-FOURTHS
vTWENTIETHS
gIN POSSESSION SIGN
gLAND SIGN
hETTER A
oA
oI
oU
nCA
nE
oE
nHA
nI
oI
nJA
nKA
nLA
oLA
pLA
nMA
nNA
oGA
oNA
pNA
oYA
nO
oO
nPA
nRA
oRA
nSA
oHA
oSA
nTA
oTA
nU
oU
nVA
nYA
gMONTH SIGN
gNUMBER ONE HUNDRED
rTHOUSAND
nSIGN
nTEN
gOM
gPUNCTUATION END OF TEXT
gRUPEE SIGN
gSALT PAN SIGN
hIGN AAZHAAKKU
mNUSVARA
lCEVITU
lKAACU
mURUNI
nZHI
lMUKKURUNI
nTHALIYA
nUVUZHAKKU
lNEL
lPAARAM
nNAM
nTHAKKU
mON
lUZHAKKU
lVAKAIYARAA
nRAAKAN
mELI
mIRAMA
nSARGA
hPENT SIGN
hTARTING FROM SIGN
gTOTAL SIGN
hRADITIONAL CREDIT SIGN
sNUMBER SIGN
gVOWEL SIGN AA
sI
sU
rE
sE
rI
sI
rO
sO
rU
sU
gWET CULTIVATION SIGN
gYEAR SIGN
cNABATA TREE
dGERINE
eSA DIGIT EIGHT
nFIVE
oOUR
nNINE
nONE
nSEVEN
oIX
nTHREE
oWO
nZERO
hLETTER AC
pQ
pWC
qQ
qX
qZ
pX
pZ
oBA
oCA
pHA
oDA
pHA
oEC
pQ
pX
pZ
oFA
pINAL NG
oGA
pHA
oHA
pTA
qTA
oIC
pQ
pX
pZ
oKA
pHA
oLA
pONG UEX
oMA
pC
pQ
pX
pZ
oNA
pGA
pHA
pYA
oOC
pQ
pX
pZ
oPA
pHA
oRA
oSA
pHA
qORT AWX
uUEZ
oTA
pHA
pSA
oUC
pEC
qQ
qX
qZ
pIC
qQ
qUC
rQ
rX
rZ
qX
qZ
pQ
pX
pZ
oVC
pQ
pX
pZ
oWA
oXA
oYA
oZA
eUT COMPONENT-001
t2
t3
t4
t5
t6
t7
t8
t9
s10
t1
t2
t3
t4
t5
t6
t7
t8
t9
s20
t1
t2
t3
t4
t5
t6
t7
t8
t9
s30
t1
t2
t3
t4
t5
t6
t7
t8
t9
s40
t1
t2
t3
t4
t5
t6
t7
t8
t9
s50
t1
t2
t3
t4
t5
t6
t7
t8
t9
s60
t1
t2
t3
t4
t5
t6
t7
t8
t9
s70
t1
t2
t3
t4
t5
t6
t7
t8
t9
s80
t1
t2
t3
t4
t5
t6
t7
t8
t9
s90
t1
t2
t3
t4
t5
t6
t7
t8
t9
r100
t1
t2
t3
t4
t5
t6
t7
t8
t9
s10
t1
t2
t3
t4
t5
t6
t7
t8
t9
s20
t1
t2
t3
t4
t5
t6
t7
t8
t9
s30
t1
t2
t3
t4
t5
t6
t7
t8
t9
s40
t1
t2
t3
t4
t5
t6
t7
t8
t9
s50
t1
t2
t3
t4
t5
t6
t7
t8
t9
s60
t1
t2
t3
t4
t5
t6
t7
t8
t9
s70
t1
t2
t3
t4
t5
t6
t7
t8
t9
s80
t1
t2
t3
t4
t5
t6
t7
t8
t9
s90
t1
t2
t3
t4
t5
t6
t7
t8
t9
r200
t1
t2
t3
t4
t5
t6
t7
t8
t9
s10
t1
t2
t3
t4
t5
t6
t7
t8
t9
s20
t1
t2
t3
t4
t5
t6
t7
t8
t9
s30
t1
t2
t3
t4
t5
t6
t7
t8
t9
s40
t1
t2
t3
t4
t5
t6
t7
t8
t9
s50
t1
t2
t3
t4
t5
t6
t7
t8
t9
s60
t1
t2
t3
t4
t5
t6
t7
t8
t9
s70
t1
t2
t3
t4
t5
t6
t7
t8
t9
s80
t1
t2
t3
t4
t5
t6
t7
t8
t9
s90
t1
t2
t3
t4
t5
t6
t7
t8
t9
r300
t1
t2
t3
t4
t5
t6
t7
t8
t9
s10
t1
t2
t3
t4
t5
t6
t7
t8
t9
s20
t1
t2
t3
t4
t5
t6
t7
t8
t9
s30
t1
t2
t3
t4
t5
t6
t7
t8
t9
s40
t1
t2
t3
t4
t5
t6
t7
t8
t9
s50
t1
t2
t3
t4
t5
t6
t7
t8
t9
s60
t1
t2
t3
t4
t5
t6
t7
t8
t9
s70
t1
t2
t3
t4
t5
t6
t7
t8
t9
s80
t1
t2
t3
t4
t5
t6
t7
t8
t9
s90
t1
t2
t3
t4
t5
t6
t7
t8
t9
r400
t1
t2
t3
t4
t5
t6
t7
t8
t9
s10
t1
t2
t3
t4
t5
t6
t7
t8
t9
s20
t1
t2
t3
t4
t5
t6
t7
t8
t9
s30
t1
t2
t3
t4
t5
t6
t7
t8
t9
s40
t1
t2
t3
t4
t5
t6
t7
t8
t9
s50
t1
t2
t3
t4
t5
t6
t7
t8
t9
s60
t1
t2
t3
t4
t5
t6
t7
t8
t9
s70
t1
t2
t3
t4
t5
t6
t7
t8
t9
s80
t1
t2
t3
t4
t5
t6
t7
t8
t9
s90
t1
t2
t3
t4
t5
t6
t7
t8
t9
r500
t1
t2
t3
t4
t5
t6
t7
t8
t9
s10
t1
t2
t3
t4
t5
t6
t7
t8
t9
s20
t1
t2
t3
t4
t5
t6
t7
t8
t9
s30
t1
t2
t3
t4
t5
t6
t7
t8
t9
s40
t1
t2
t3
t4
t5
t6
t7
t8
t9
s50
t1
t2
t3
t4
t5
t6
t7
t8
t9
s60
t1
t2
t3
t4
t5
t6
t7
t8
t9
s70
t1
t2
t3
t4
t5
t6
t7
t8
t9
s80
t1
t2
t3
t4
t5
t6
t7
t8
t9
s90
t1
t2
t3
t4
t5
t6
t7
t8
t9
r600
t1
t2
t3
t4
t5
t6
t7
t8
t9
s10
t1
t2
t3
t4
t5
t6
t7
t8
t9
s20
t1
t2
t3
t4
t5
t6
t7
t8
t9
s30
t1
t2
t3
t4
t5
t6
t7
t8
t9
s40
t1
t2
t3
t4
t5
t6
t7
t8
t9
s50
t1
t2
t3
t4
t5
t6
t7
t8
t9
s60
t1
t2
t3
t4
t5
t6
t7
t8
t9
s70
t1
t2
t3
t4
t5
t6
t7
t8
t9
s80
t1
t2
t3
t4
t5
t6
t7
t8
t9
s90
t1
t2
t3
t4
t5
t6
t7
t8
t9
r700
t1
t2
t3
t4
t5
t6
t7
t8
t9
s10
t1
t2
t3
t4
t5
t6
t7
t8
t9
s20
t1
t2
t3
t4
t5
t6
t7
t8
t9
s30
t1
t2
t3
t4
t5
t6
t7
t8
t9
s40
t1
t2
t3
t4
t5
t6
t7
t8
t9
s50
t1
t2
t3
t4
t5
t6
t7
t8
t9
s60
t1
t2
t3
t4
t5
t6
t7
t8
hITERATION MARK
cPE CARTRIDGE
fDRIVE
cURUS
cXI
bEACUP WITHOUT HANDLE
dPOT
dR-OFF CALENDAR
eDROP-BARBED RIGHTWARDS ARROW
jSPOKED ASTERISK
cDDY BEAR
cLEPHONE LOCATION SIGN
kON TOP OF MODEM
kRECEIVER
s WITH PAGE
nORDER
kSIGN
eSCOPE
eVISION
dUGU AI LENGTH MARK
hDIGIT EIGHT
nFIVE
oOUR
nNINE
nONE
nSEVEN
oIX
nTHREE
oWO
nZERO
hFRACTION DIGIT ONE FOR EVEN POWERS OF FOUR
beODD POWERS OF FOUR
wTHREE FOR EVEN POWERS OF FOUR
bgODD POWERS OF FOUR
xWO FOR EVEN POWERS OF FOUR
beODD POWERS OF FOUR
wZERO FOR ODD POWERS OF FOUR
hLENGTH MARK
jTTER A
pA
pI
pU
oBA
pHA
oCA
pHA
oDA
pDA
qHA
pHA
pZA
oE
pE
oGA
pHA
oHA
oI
pI
oJA
pHA
oKA
pHA
oLA
pLA
qLA
oMA
oNA
qKAARA POLLU
pGA
pNA
pYA
oO
pO
oPA
pHA
oRA
pRA
qRA
oSA
pHA
pSA
oTA
pHA
pSA
pTA
qHA
oU
pU
oVA
pOCALIC L
xL
wR
xR
oYA
hSIGN ANUSVARA
nVAGRAHA
mCANDRABINDU
nOMBINING ANUSVARA ABOVE
wCANDRABINDU ABOVE
mNUKTA
mSIDDHAM
mTUUMU
mVIRAMA
oSARGA
hVOWEL SIGN AA
tI
tU
sE
tE
sI
tI
sO
tO
sU
tU
sVOCALIC L
bbL
baR
bbR
cNGE SIGN
dNIS RACQUET AND BALL
dT
cST TUBE
cTRAGRAM FOR ACCUMULATION
pDVANCE
pGGRAVATION
pSCENT
oBARRIER
pOLD RESOLUTION
pRANCHING OUT
oCENTRE
pHANGE
pLOSED MOUTH
tNESS
sURE
pOMPLETION
tIANCE
qNSTANCY
rTACT
sENTION
sRARIETY
oDARKENING
pECISIVENESS
qFECTIVENESS OR DISTORTION
qPARTURE
pIFFICULTIES
qMINISHMENT
rMING
qVERGENCE
pOUBT
pUTIES
oEASE
pMBELLISHMENT
pNCOUNTERS
qDEAVOUR
qLARGEMENT
pTERNITY
pXHAUSTION
oFAILURE
pLIGHT
pOLLOWING
qSTERING
pULL CIRCLE
sNESS
oGATHERING
x IN
pOING TO MEET
pREATNESS
pUARDEDNESS
oHARDNESS
pOLDING BACK
oINCREASE
qNER
oJOY
oKEEPING SMALL
pINSHIP
oLABOURING
qW OR MODEL
pEGION
oMASSING
pEASURE
pIRED
oON THE VERGE
pPPOSITION
oPACKING
qTTERN
pENETRATION
pURITY
oREACH
qLEASE
qSIDENCE
sSTANCE
rPONSE
pITUAL
oSEVERANCE
pINKING
pTOPPAGE
rVE
qRENGTH
oUNITY
oVASTNESS OR WASTING
oWAITING
qTCH
oYOUTHFULNESS
bHAANA AABAAFILI
iBAFILI
hEBEFILI
iEBEEFILI
iYBEYFILI
hIBIFILI
hLETTER AINU
pLIFU
oBAA
oCHAVIYANI
oDAADHU
qVIYANI
pHAALU
oFAAFU
oGAAFU
pHAINU
pNAVIYANI
oHAA
pHAA
oJAVIYANI
oKAAFU
pHAA
oLAAMU
pHAVIYANI
oMEEMU
oNAA
pOONU
oPAVIYANI
oQAAFU
oRAA
oSAADHU
pEENU
pHAVIYANI
qEENU
oTAVIYANI
pHAA
sLU
pO
pTAA
oVAAVU
oWAAVU
oYAA
oZAA
qVIYANI
pO
hOABOAFILI
iBOFILI
iOBOOFILI
hSUKUN
hUBUFILI
dI CHARACTER ANGKHANKHU
pBO BAIMAI
pCHO CHAN
xG
vING
vOE
pDO CHADA
sDEK
pFO FA
uN
rNGMAN
pHO HIP
sNOKHUK
pKHO KHAI
vON
vUAT
vWAI
tRAKHANG
sMUT
qO KAI
pLAKKHANGYAO
qO CHULA
sLING
qU
pMAI CHATTAWA
tEK
tHAN-AKAT
tTHO
uRI
sTAIKHU
sYAMOK
qO MA
pNGO NGU
qIKHAHIT
qO NEN
tU
pO ANG
pPAIYANNOI
qHINTHU
rO PHAN
vUNG
tSAMPHAO
qO PLA
pRO RUA
qU
pSARA A
vA
vE
vI MAIMALAI
bbUAN
vM
uE
uI
vI
uO
uU
vE
wE
vU
qO RUSI
sSALA
tO
tUA
pTHANTHAKHAT
rO NANGMONTHO
tPHUTHAO
tTHAHAN
wN
vONG
vUNG
qO PATAK
sTAO
pWO WAEN
pYAMAKKAN
qO YAK
tING
gURRENCY SYMBOL BAHT
fDIGIT EIGHT
lFIVE
mOUR
lNINE
lONE
lSEVEN
mIX
lTHREE
mWO
lZERO
cERE DOES NOT EXIST
gEXISTS
fFORE
eMODYNAMIC
gMETER
cIN GREEK CROSS
fSALTIRE
gPACE
eKING FACE
dRD PLACE MEDAL
cONG SANDAL
dUGHT BALLOON
cREE BUTTON MOUSE
gCONSECUTIVE EQUALS SIGNS
gDIMENSIONAL ANGLE
hOT PUNCTUATION
gLEFTWARDS ARROWS
hINES CONVERGING LEFT
xRIGHT
gNETWORKED COMPUTERS
gPOINTED BLACK STAR
gRAYS ABOVE
lBELOW
lLEFT
lRIGHT
hIGHTWARDS ARROWS
gSPEECH BUBBLES
f-D BOTTOM-LIGHTED RIGHTWARDS ARROWHEAD
iLEFT-LIGHTED DOWNWARDS EQUILATERAL ARROWHEAD
iRIGHT-LIGHTED UPWARDS EQUILATERAL ARROWHEAD
iTOP-LIGHTED LEFTWARDS EQUILATERAL ARROWHEAD
uRIGHTWARDS ARROWHEAD
bfEQUILATERAL ARROWHEAD
gEM DASH
gPER-EM SPACE
cUMBS DOWN SIGN
hUP SIGN
dNDER CLOUD AND RAIN
hSTORM
bIBETAN ASTROLOGICAL SIGN -KHYUD PA
baSDONG TSHUGS
bbGRA GCAN -CHAR RTAGS
iCANTILLATION SIGN CANG TE-U
baHEAVY BEAT
baLIGHT BEAT
baSBUB -CHAL
iDIGIT EIGHT
oFIVE
pOUR
oHALF EIGHT
tFIVE
uOUR
tNINE
tONE
tSEVEN
uIX
tTHREE
uWO
tZERO
oNINE
oONE
oSEVEN
pIX
oTHREE
pWO
oZERO
iKU RU KHA
r BZHI MIG CAN
iLETTER -A
pA
pBA
qHA
pCA
qHA
pDA
qDA
rHA
qHA
qZA
rHA
pFIXED-FORM RA
pGA
qHA
pHA
pJA
pKA
qHA
qKA
qSSA
pLA
pMA
pNA
qGA
qNA
qYA
pPA
qHA
pRA
qRA
pSA
qHA
qSA
pTA
qHA
qSA
rHA
qTA
rHA
pWA
pYA
pZA
qHA
jOGOTYPE SIGN CHAD RTAGS
wLHAG RTAGS
iMARK ANG KHANG GYAS
zON
nBKA- SHOG GI MGO RGYAN
xYIG MGO
oSDUS RTAGS
pKA- SHOG GI MGO RGYAN
qUR YIG MGO
nCARET -DZUD RTAGS BZHI MIG CAN
bfME LONG CAN
tYIG MGO PHUR SHAD MA
oHE MGO
oLOSING BRDA RNYING YIG MGO SGAB MA
vYIG MGO SGAB MA
nDELIMITER TSHEG BSTAR
nGTER TSHEG
sYIG MGO -UM GTER TSHEG MA
beRNAM BCAD MA
baTRUNCATED A
oUG RTAGS GYAS
zON
nHALANTA
nINITIAL BRDA RNYING YIG MGO MDUN MA
vYIG MGO MDUN MA
pTERSYLLABIC TSHEG
nLEADING MCHAN RTAGS
nMNYAM YIG GI MGO RGYAN
nNGAS BZUNG NYI ZLA
ySGOR RTAGS
oYIS SHAD
sTSHEG
x SHAD
nPALUTA
nRGYA GRAM SHAD
oIN CHEN SPUNGS SHAD
nSBRUL SHAD
oHAD
nTRAILING MCHAN RTAGS
oSA -PHRU
pHEG SHAD
nYIG MGO TSHEG SHAD MA
iSIGN GRU CAN RGYINGS
rMED RGYINGS
nINVERTED MCHU CAN
nLCE TSA CAN
pI RTAGS
nMAR TSHES
oCHU CAN
nNYI ZLA NAA DA
nRDEL DKAR GCIG
yNYIS
ySUM
xRDEL NAG
sNAG GCIG
xNYIS
xSUM
wRDEL DKAR
oJES SU NGA RO
oNAM BCAD
nSNA LDAN
nYANG RTAGS
pR TSHES
jUBJOINED LETTER -A
zA
zBA
baHA
zCA
baHA
zDA
baDA
bbHA
baHA
baZA
bbHA
zFIXED-FORM RA
bkWA
bkYA
zGA
baHA
zHA
zJA
zKA
baHA
baSSA
zLA
zMA
zNA
baGA
baNA
baYA
zPA
baHA
zRA
zSA
baHA
baSA
zTA
baHA
baSA
bbHA
baTA
bbHA
zWA
zYA
zZA
baHA
sSIGN INVERTED MCHU CAN
xLCE TSA CAN
xMCHU CAN
jYLLABLE OM
kMBOL DRIL BU
pNOR BU
v BZHI -KHYIL
wGSUM -KHYIL
wNYIS -KHYIL
pPADMA GDAN
qHUR PA
pRDO RJE
w RGYA GRAM
iVOWEL SIGN AA
tE
uE
tI
uI
tO
uO
tREVERSED I
bdI
tU
uU
tVOCALIC L
bcL
bbR
bcR
cCKET
cE OVER INFINITY
cFINAGH CONSONANT JOINER
jLETTER AHAGGAR YAZH
rYER YAGH
qBERBER ACADEMY YAH
bhJ
qTAWELLEMET YAZ
rUAREG YAGH
baN
zH
zK
baH
zNG
zQ
zZH
qYA
sA
sB
tH
sCH
sD
tD
uH
tH
sF
sG
tH
uH
sH
tH
sJ
sK
tH
uH
sL
sM
sN
sP
sQ
sR
tR
sS
tH
tS
sT
tH
tT
sV
sW
sY
sZ
tH
tZ
rE
sY
rI
rO
rU
jMODIFIER LETTER LABIALIZATION MARK
jSEPARATOR MARK
cGER
f FACE
dHT TRIFOLIATE SNOWFLAKE
cLDE
f OPERATOR
o ABOVE LEFTWARDS ARROW
vRIGHTWARDS ARROW
pWITH DOT ABOVE
uRISING DOTS
gWITH DOT ABOVE
pBELOW
lRING ABOVE
cMER CLOCK
eS WITH LEFT HALF BLACK
lRIGHT HALF BLACK
cNY
e TWO DOTS OVER ONE DOT PUNCTUATION
cRED FACE
dHUTA ABBREVIATION SIGN
jNJI
iDIGIT EIGHT
oFIVE
pOUR
oNINE
oONE
oSEVEN
pIX
oTHREE
pWO
oZERO
iGVANG
iLETTER A
qA
qI
qU
pBA
qHA
pCA
qHA
pDA
qDA
rHA
qHA
pE
pGA
qHA
pHA
pI
qI
pJA
qHA
pKA
qHA
pLA
pMA
pNA
qGA
qNA
qYA
pO
pPA
qHA
pRA
pSA
qHA
qSA
pTA
qHA
qTA
rHA
pU
qU
pVA
qOCALIC L
yL
xR
yR
pYA
iOM
iSIGN ANUSVARA
oVAGRAHA
nCANDRABINDU
nNUKTA
nVIRAMA
pSARGA
iVOWEL SIGN AA
uI
uU
tE
tI
uI
tO
tSHORT E
zO
tU
uU
tVOCALIC L
bcL
bbR
bcR
dONIAN SIGN CAPITAL ET
oET
bOILET
cKYO TOWER
cMATO
cNGUE
cOLBOX
dTH
fBRUSH
cP ARC ANTICLOCKWISE ARROW
bb WITH PLUS
iCLOCKWISE ARROW WITH MINUS
eCURLY BRACKET
eHALF BLACK CIRCLE
jINTEGRAL
jLEFT PARENTHESIS
jRIGHT PARENTHESIS
jSECTION SIGN
gT
eLEFT CORNER
kROP
jHALF BRACKET
ePARENTHESIS
eRIGHT CORNER
lROP
kHALF BRACKET
eSQUARE BRACKET
eTORTOISE SHELL BRACKET
eWITH UPWARDS ARROW ABOVE
cRTOISE SHELL BRACKETED CJK UNIFIED IDEOGRAPH-4E09
bx8C
bv52DD
bwB89
bv6253
bw557
bw72C
bv70B9
bw6D7
zLATIN CAPITAL LETTER S
cTAL RUNOUT
dO LETTER A
nE
mBA
nREATHY AE
uE
vO
uI
vU
mCHA
mDA
mE
nO
mGA
mHA
mI
nU
mJA
mKA
mLA
mMA
mNA
nGA
mO
mPA
mRA
mSA
mTA
mU
mWA
mYA
fSIGN RISING TONE
bRACKBALL
eTOR
dDE MARK SIGN
dIN
dM
e CAR
dNSPLUTO
fVERSAL INTERSECTION
cIANGLE WITH DOT ABOVE
oROUNDED CORNERS
oSERIFS AT BOTTOM
oUNDERBAR
i-HEADED RIGHTWARDS ARROW
gULAR BULLET
lFLAG ON POST
lRULER
dCOLON
dDENT EMBLEM
dGRAM FOR EARTH
mFIRE
mHEAVEN
mLAKE
mMOUNTAIN
mTHUNDER
mWATER
nIND
dPLE COLON OPERATOR
hDAGGER
hHORIZONTAL BAR WITH DOUBLE VERTICAL STROKE
bbTRIPLE VERTICAL STROKE
hINTEGRAL
hNESTED GREATER-THAN
oLESS-THAN
hPLUS
iRIME
hSOLIDUS BINARY RELATION
hTILDE
hVERTICAL BAR BINARY RELATION
uDELIMITER
uRIGHT TURNSTILE
uWITH HORIZONTAL STROKE
cOLL
fEYBUS
dPHY
eICAL DRINK
jFISH
cUE
e LIGHT MOON ARTA
dMPET
bUGRIK SIGN
cLIP
cMBLER GLASS
cRKEY
eISH LIRA SIGN
dNED AMPERSAND
iNGLE
hBLACK PENTAGON
nSHOGI PIECE
hCAPITAL F
iOMMA
hDAGGER
iIGIT THREE
oWO
hGREEK SMALL LETTER IOTA
hNORTH EAST POINTING LEAF
nWEST POINTING LEAF
jT SIGN
hOK HAND SIGN
hSANS-SERIF CAPITAL G
baL
baY
iEMICOLON
iMALL F
iOUTH EAST POINTING LEAF
nWEST POINTING LEAF
hWHITE SHOGI PIECE
dTLE
bWELVE POINTED BLACK STAR
cISTED RIGHTWARDS ARROWS
cO ASTERISKS ALIGNED VERTICALLY
eBUTTON MOUSE
eCONSECUTIVE EQUALS SIGNS
eDOT LEADER
iPUNCTUATION
hS OVER ONE DOT PUNCTUATION
eHEARTS
eINTERSECTING LOGICAL AND
zOR
eJOINED SQUARES
eLOGICAL AND OPERATOR
mOR OPERATOR
eMEN HOLDING HANDS
eSPEECH BUBBLES
eWOMEN HOLDING HANDS
d-EM DASH
aUGARITIC LETTER AIN
rLPA
qBETA
qDELTA
rHAL
qGAMLA
rHAIN
qHO
sTA
qI
qKAF
rHA
qLAMDA
qMEM
qNUN
qPU
qQOPA
qRASHA
qSADE
sMKA
rHIN
rSU
qTET
rHANNA
rO
qU
qWO
qYOD
qZETA
rU
jWORD DIVIDER
bMBRELLA
i ON GROUND
jWITH RAIN DROPS
bNAMUSED FACE
cCERTAINTY SIGN
cDERTIE
dO SYMBOL
cICORN FACE
dON
f ABOVE BAR ABOVE INTERSECTION
mINTERSECTION
gBESIDE AND JOINED WITH UNION
gWITH LOGICAL OR
lMINUS SIGN
lOVERBAR
dT SEPARATOR
eED SYMBOL
dVERSAL RECYCLING SYMBOL
cMARRIED PARTNERSHIP SYMBOL
bP ARROW THROUGH CIRCLE
iHEAD
m BETWEEN TWO HORIZONTAL BARS
nIN A RECTANGLE BOX
dBARB LEFT DOWN BARB LEFT HARPOON
xRIGHT HARPOON
iRIGHT DOWN BARB LEFT HARPOON
yRIGHT HARPOON
dDOWN ARROW
n WITH BASE
iBLACK ARROW
iDOUBLE ARROW
iSANS-SERIF ARROW
iTRIANGLE-HEADED ARROW
iWHITE ARROW
dFISH TAIL
dRIGHT DIAGONAL ELLIPSIS
dTACK
h WITH CIRCLE ABOVE
c-POINTING AIRPLANE
mMILITARY AIRPLANE
mRED TRIANGLE
mSMALL AIRPLANE
sRED TRIANGLE
mTRIANGLE WITH LEFT HALF BLACK
baRIGHT HALF BLACK
cPER AND LEFT AND LOWER TRIANGULAR THREE QUARTERS BLOCK
lOWER ONE EIGHTH BLOCK
qTRIANGULAR HALF BLOCK
kRIGHT AND LOWER TRIANGULAR THREE QUARTERS BLOCK
gBLADE SCISSORS
gFIVE EIGHTHS BLOCK
gHALF BLOCK
q AND LOWER HALF INVERSE MEDIUM SHADE
lCIRCLE
lINVERSE MEDIUM SHADE AND LOWER HALF BLOCK
tWHITE CIRCLE
lMEDIUM SHADE
gLEFT BLOCK DIAGONAL LOWER CENTRE TO LOWER MIDDLE RIGHT
bqUPPER MIDDLE RIGHT
bwRIGHT
bgLEFT TO LOWER MIDDLE RIGHT
boUPPER CENTRE
buMIDDLE RIGHT
bgMIDDLE LEFT TO UPPER CENTRE
cbMIDDLE RIGHT
cbRIGHT
baUPPER MIDDLE LEFT TO UPPER CENTRE
cbRIGHT
lCORNER WITH DOT
lOR LOWER RIGHT CURLY BRACKET SECTION
lQUADRANT CIRCULAR ARC
lTO LOWER RIGHT FILL
mRIANGLE
rULAR MEDIUM SHADE
gONE EIGHTH BLOCK
kQUARTER BLOCK
gRIGHT BLOCK DIAGONAL LOWER MIDDLE LEFT TO LOWER CENTRE
ccRIGHT
bbUPPER CENTRE TO LOWER MIDDLE RIGHT
bxRIGHT
brUPPER MIDDLE RIGHT
bhLEFT TO LOWER CENTRE
bvMIDDLE RIGHT
bpUPPER MIDDLE RIGHT
bhMIDDLE LEFT TO LOWER CENTRE
ccMIDDLE RIGHT
ccRIGHT
mDROP-SHADOWED WHITE SQUARE
mOR LOWER LEFT CURLY BRACKET SECTION
mPENCIL
mQUADRANT CIRCULAR ARC
mSHADOWED WHITE CIRCLE
bbSQUARE
mTO LOWER LEFT FILL
nRIANGLE
sULAR MEDIUM SHADE
gSEVEN EIGHTHS BLOCK
gTHREE EIGHTHS BLOCK
mQUARTERS BLOCK
hRIANGULAR ONE QUARTER BLOCK
cSIDE-DOWN FACE
cWARDS ANCORA
jRROW
n AND RIGHT ONE EIGHTH BLOCK
oFROM BAR
oLEFTWARDS OF DOWNWARDS ARROW
oTO BAR
oWITH DOUBLE STROKE
tEQUILATERAL ARROWHEAD
tHORIZONTAL STROKE
tLARGE TRIANGLE ARROWHEAD
tMEDIUM TRIANGLE ARROWHEAD
tNOTCHED TAIL
tSMALL EQUILATERAL ARROWHEAD
zTRIANGLE ARROWHEAD
tTIP LEFTWARDS
xRIGHTWARDS
iBLACK ARROW
oCIRCLED WHITE ARROW
iCOMPRESSED ARROW
iDASHED ARROW
jOUBLE ARROW
iFINGER-POST ARROW
iHARPOON WITH BARB LEFT BESIDE DOWNWARDS HARPOON WITH BARB RIGHT
bmUPWARDS HARPOON WITH BARB RIGHT
bfFROM BAR
bfTO BAR
beWARDS
baRIGHT FROM BAR
bgTO BAR
bfWARDS
jEAVY ARROW
oCOMPRESSED ARROW
iPAIRED ARROWS
iQUADRUPLE ARROW
iROCKET
iSANS-SERIF ARROW
jQUARED ARROW
iTRIANGLE ARROWHEAD
q-HEADED ARROW
bd LEFTWARDS OF DOWNWARDS TRIANGLE-HEADED ARROW
beTO BAR
beWITH BOLD SHAFT
bjDOUBLE HORIZONTAL STROKE
bjHEAVY SHAFT
bjLONG TIP LEFTWARDS
bsRIGHTWARDS
bjMEDIUM SHAFT
bjNARROW SHAFT
bjVERY HEAVY SHAFT
yDASHED ARROW
yPAIRED ARROWS
lPLE ARROW
jWO HEADED ARROW
l-HEADED ARROW FROM SMALL CIRCLE
zWITH TRIANGLE ARROWHEADS
iWHITE ARROW
t FROM BAR
bc WITH HORIZONTAL BAR
uON PEDESTAL
bf WITH HORIZONTAL BAR
blVERTICAL BAR
uWITHIN TRIANGLE ARROWHEAD
oDOUBLE ARROW
ba ON PEDESTAL
bRANUS
bS
aVAI COMMA
eDIGIT EIGHT
kFIVE
lOUR
kNINE
kONE
kSEVEN
lIX
kTHREE
lWO
kZERO
eFULL STOP
eQUESTION MARK
eSYLLABLE A
oN
nBA
oE
pE
oHA
pE
qE
pI
pO
qO
pU
oI
oO
pO
oU
nCA
oE
pE
oI
oO
pO
oU
nDA
oE
pE
oHA
pE
qE
pHA
qE
rE
qI
qO
rO
qU
pI
pO
qO
pU
oI
oO
pO
oU
nE
oE
pN
oN
nFA
oE
pE
oI
oO
pO
oU
nGA
oBA
pE
qE
qN
pI
pO
qN
qO
pU
oE
pE
pN
oI
oO
pO
oU
nHA
pN
oE
pE
pN
oI
pN
oO
pN
pO
oU
pN
nI
oN
nJA
oE
pE
oI
oO
pO
oU
nKA
pN
oE
pE
oI
oO
pO
oPA
qN
pE
qE
qN
pI
pO
qO
pU
oU
nLA
oE
pE
pNGTHENER
oI
oO
pO
oU
nMA
oBA
pE
qE
pI
pO
qO
pU
oE
pE
oGBA
qE
rE
qI
qO
rO
qU
oI
oO
pO
oU
nNA
oDA
pE
qE
pI
pO
qLE DO
tFA
tKA
tMA
tSOO
qO
pU
oE
pE
oG
pAN
pEN
pGA
qE
rE
rN
qI
qO
rO
qU
pON
oI
oJA
pE
qE
pI
pO
qO
pU
oO
pO
oU
oYA
pE
qE
pI
pO
qO
pU
nO
oN
oO
pN
nPA
oE
pE
oI
oO
pO
oU
nRA
oE
pE
oI
oO
pO
oU
nSA
oE
pE
oHA
pE
qE
pI
pO
qO
pU
oI
oO
pO
oU
nTA
oE
pE
oHA
pE
qE
pI
pO
qO
pU
oI
oO
pO
oU
nU
oN
nVA
oE
pE
oI
oO
pO
oU
nWA
pN
oE
pE
qN
pN
oI
pN
oO
pN
pO
qN
oU
pN
nYA
oE
pE
oI
oO
pO
oU
nZA
oE
pE
oHA
pE
qE
pI
pO
qO
pU
oI
oO
pO
oU
gMBOL BANG
lDANG
mO-O
nONG
lFAA
mEENG
lJONG
lKEENG
mUNG
lNII
lTAA
mING
mONG
cMPIRE
cRIATION SELECTOR-1
u0
v0
v1
v2
v3
v4
v5
v6
v7
v8
v9
u1
v0
v1
v2
v3
v4
v5
v6
v7
v8
v9
u2
v0
v1
v2
v3
v4
v5
v6
v7
v8
v9
u3
v0
v1
v2
v3
v4
v5
v6
v7
v8
v9
u4
v0
v1
v2
v3
v4
v5
v6
v7
v8
v9
u5
v0
v1
v2
v3
v4
v5
v6
v7
v8
v9
u6
v0
v1
v2
v3
v4
v5
v6
v7
v8
v9
u7
v0
v1
v2
v3
v4
v5
v6
v7
v8
v9
u8
v0
v1
v2
v3
v4
v5
v6
v7
v8
v9
u9
v0
v1
v2
v3
v4
v5
v6
v7
v8
v9
t2
u0
v0
v1
v2
v3
v4
v5
v6
v7
v8
v9
u1
v0
v1
v2
v3
v4
v5
v6
v7
v8
v9
u2
v0
v1
v2
v3
v4
v5
v6
v7
v8
v9
u3
v0
v1
v2
v3
v4
v5
v6
v7
v8
v9
u4
v0
v1
v2
v3
v4
v5
v6
v7
v8
v9
u5
v0
v1
v2
v3
v4
v5
v6
u6
u7
u8
u9
t3
u0
u1
u2
u3
u4
u5
u6
u7
u8
u9
t4
u0
u1
u2
u3
u4
u5
u6
u7
u8
u9
t5
u0
u1
u2
u3
u4
u5
u6
u7
u8
u9
t6
u0
u1
u2
u3
u4
u5
u6
u7
u8
u9
t7
u0
u1
u2
u3
u4
u5
u6
u7
u8
u9
t8
u0
u1
u2
u3
u4
u5
u6
u7
u8
u9
t9
u0
u1
u2
u3
u4
u5
u6
u7
u8
u9
bECTOR OR CROSS PRODUCT
cDIC SIGN ANUSVARA ANTARGOMUKHA
uBAHIRGOMUKHA
uUBHAYATO MUKHA
uVAMAGOMUKHA
bf WITH TAIL
mRDHAVISARGA
mTIKRAMA
lDOUBLE ANUSVARA ANTARGOMUKHA
lHEXIFORM LONG ANUSVARA
lJIHVAMULIYA
lLONG ANUSVARA
lNIHSHVASA
lREVERSED VISARGA ANUDATTA
bcUDATTA
mOTATED ARDHAVISARGA
mTHANG LONG ANUSVARA
lTIRYAK
lUPADHMANIYA
lVISARGA ANUDATTA
bb WITH TAIL
tSVARITA
tUDATTA
z WITH TAIL
lYAJURVEDIC MIDLINE SVARITA
gTONE ATHARVAVEDIC INDEPENDENT SVARITA
lCANDRA ABOVE
sBELOW
lDOT BELOW
nUBLE RING ABOVE
sSVARITA
lKARSHANA
nTHAKA ANUDATTA
lPRENKHA
lRIGVEDIC KASHMIRI INDEPENDENT SVARITA
nNG ABOVE
lSHARA
lTHREE DOTS BELOW
mRIPLE SVARITA
mWO DOTS BELOW
lYAJURVEDIC AGGRAVATED INDEPENDENT SVARITA
wINDEPENDENT SVARITA
wKATHAKA INDEPENDENT SVARITA
bx SCHROEDER
cRSICLE
dTICAL BAR BESIDE RIGHT TRIANGLE
nDOUBLE LEFT TURNSTILE
nTRIPLE RIGHT TURNSTILE
nWITH HORIZONTAL STROKE
jELLIPSIS
jFOUR DOTS
jIDEOGRAPHIC ITERATION MARK
jKANA REPEAT MARK
z LOWER HALF
baUPPER HALF
vWITH VOICED SOUND MARK
br UPPER HALF
jLINE
n EXTENSION
oWITH CIRCLE ABOVE
baBELOW
tMIDDLE DOT
jMALE WITH STROKE SIGN
jONE EIGHTH BLOCK-2
ba3
ba4
ba5
ba6
ba7
jSIX DOTS
jTAB KEY
mULATION
t SET
kILDE
kRAFFIC LIGHT
jZIGZAG LINE
dY BOLD GREEK CROSS
fHEAVY EIGHT POINTED BLACK STAR
rSPOKED ASTERISK
lFIVE SPOKED ASTERISK
lGREEK CROSS
lREVERSE SOLIDUS
lSALTIRE
mIX SPOKED ASTERISK
mOLIDUS
lWHITE CIRCLE
rSQUARE
fMUCH GREATER-THAN
kLESS-THAN
cSTA
bIBRATION MODE
cCTORY HAND
cDEO CAMERA
gGAME
fCASSETTE
cETNAMESE ALTERNATE READING MARK CA
biNHAY
dWDATA SQUARE
cOLIN
cRGO
cTHKUQI CAPITAL LETTER A
yBBE
zE
yCE
zHE
yDE
zHE
yE
zI
yFE
yGA
yHA
zHA
yI
zJE
yJE
yKA
yLA
zLA
yME
yNE
zJE
yO
yPE
yQA
yRE
ySE
zHE
yTE
zHE
yU
yVE
yXE
yY
yZE
jSMALL LETTER A
wBBE
xE
wCE
xHE
wDE
xHE
wE
xI
wFE
wGA
wHA
xHA
wI
xJE
wJE
wKA
wLA
xLA
wME
wNE
xJE
wO
wPE
wQA
wRE
wSE
xHE
wTE
xHE
wU
wVE
wXE
wY
wZE
bOIDED GREEK CROSS
cLCANO
dLEYBALL
dUME INTEGRAL
bS1
d0
e0
e1
e2
e3
e4
e5
e6
e7
e8
e9
d1
e0
e1
e2
e3
e4
e5
e6
e7
e8
e9
d2
e0
e1
e2
e3
e4
e5
e6
e7
e8
e9
d3
e0
e1
e2
e3
e4
e5
e6
e7
e8
e9
d4
e0
e1
e2
e3
e4
e5
e6
e7
e8
e9
d5
e0
e1
e2
e3
e4
e5
e6
e7
e8
e9
d6
e0
e1
e2
e3
e4
e5
e6
e7
e8
e9
d7
e0
e1
e2
e3
e4
e5
e6
e7
e8
e9
d8
e0
e1
e2
e3
e4
e5
e6
e7
e8
e9
d9
e0
e1
e2
e3
e4
e5
e6
e7
e8
e9
c2
d0
e0
e1
e2
e3
e4
e5
e6
e7
e8
e9
d1
e0
e1
e2
e3
e4
e5
e6
e7
e8
e9
d2
e0
e1
e2
e3
e4
e5
e6
e7
e8
e9
d3
e0
e1
e2
e3
e4
e5
e6
e7
e8
e9
d4
e0
e1
e2
e3
e4
e5
e6
e7
e8
e9
d5
e0
e1
e2
e3
e4
e5
e6
d6
d7
d8
d9
c3
d0
d1
d2
d3
d4
d5
d6
d7
d8
d9
c4
d0
d1
d2
d3
d4
d5
d6
d7
d8
d9
c5
d0
d1
d2
d3
d4
d5
d6
d7
d8
d9
c6
d0
d1
d2
d3
d4
d5
d6
d7
d8
d9
c7
d0
d1
d2
d3
d4
d5
d6
d7
d8
d9
c8
d0
d1
d2
d3
d4
d5
d6
d7
d8
d9
c9
d0
d1
d2
d3
d4
d5
d6
d7
d8
d9
bT
cS
bULCANUS
dGAR FRACTION FIVE EIGHTHS
vSIXTHS
rOUR FIFTHS
qONE EIGHTH
uFIFTH
uHALF
uNINTH
uQUARTER
uSEVENTH
vIXTH
uTENTH
vHIRD
qSEVEN EIGHTHS
qTHREE EIGHTHS
wFIFTHS
wQUARTERS
rWO FIFTHS
uTHIRDS
qZERO THIRDS
aWAFFLE
cNCHO DIGIT EIGHT
nFIVE
oOUR
nNINE
nONE
nSEVEN
oIX
nTHREE
oWO
nZERO
hLETTER A
pA
qN
rG
pNG
pU
oBA
oCA
oDA
oE
pN
oFA
oGA
oHA
oI
pNG
oJA
oKA
pHA
oLA
pLHA
oMA
oNA
pGA
pYA
oO
pN
qG
oPA
pHA
oRA
oSA
pHA
oTA
pHA
pRA
pSA
oU
pEN
oVA
oWA
oYA
pIH
oZA
hNGUN SIGN
hTONE KOI
pNI
mTUP
pNI
dING CRESCENT MOON SYMBOL
hGIBBOUS MOON SYMBOL
cRANG CITI CAPITAL LETTER A
bcM
bcNG
bcT
bbBU
bbDA
bbE
bcNN
bdY
bbGA
bbHAR
bcIYO
bcOLO
bdRR
bbII
bbKO
bbNGAA
bcUNG
bbO
bcDD
bbPU
bbSII
bcSUU
bbTTE
bbUC
bcU
bbVIYO
bbWI
bbYA
bcO
bcU
bdJ
mDIGIT EIGHT
sFIVE
tOUR
sNINE
sONE
sSEVEN
tIX
sTHREE
tWO
sZERO
mNUMBER EIGHTY
tFIFTY
uORTY
tNINETY
tSEVENTY
uIXTY
tTEN
uHIRTY
uWENTY
mOM
mSMALL LETTER A
baM
baNG
baT
zBU
zDA
zE
baNN
bbY
zGA
zHAR
baIYO
baOLO
bbRR
zII
zKO
zNGAA
baUNG
zO
baDD
zPU
zSII
baSUU
zTTE
zUC
baU
zVIYO
zWI
zYA
baO
baU
bbJ
dNING SIGN
cSTEBASKET
cTCH
dER BUFFALO
gCLOSET
gPOLO
gWAVE
fMELON
cVE ARROW POINTING DIRECTLY LEFT
bdRIGHT
fDASH
dING BLACK FLAG
hHAND SIGN
hWHITE FLAG
dY DASH
fLINE
gOW LINE
fOVERLINE
cXING CRESCENT MOON SYMBOL
hGIBBOUS MOON SYMBOL
bEARY CAT FACE
gFACE
cDDING
dGE-TAILED RIGHTWARDS ARROW
cIERSTRASS ELLIPTIC FUNCTION
dGHT LIFTER
cST SYRIAC CROSS
bHALE
cEEL
f OF DHARMA
fCHAIR SYMBOL
cITE ARROW SHAFT WIDTH ONE
yTWO THIRDS
gBULLET
gCHESS BISHOP
s ROTATED NINETY DEGREES
bbTWO HUNDRED SEVENTY DEGREES
mEQUIHOPPER
w ROTATED NINETY DEGREES
mKING
q ROTATED NINETY DEGREES
zTWO HUNDRED SEVENTY DEGREES
nNIGHT
s ROTATED FORTY-FIVE DEGREES
bbNINETY DEGREES
bbONE HUNDRED THIRTY-FIVE DEGREES
bbTHREE HUNDRED FIFTEEN DEGREES
bcWO HUNDRED SEVENTY DEGREES
bnTWENTY-FIVE DEGREES
s-BISHOP
tQUEEN
tROOK
mPAWN
q ROTATED NINETY DEGREES
zTWO HUNDRED SEVENTY DEGREES
mQUEEN
r ROTATED NINETY DEGREES
baTWO HUNDRED SEVENTY DEGREES
mROOK
q ROTATED NINETY DEGREES
zTWO HUNDRED SEVENTY DEGREES
mTURNED BISHOP
tKING
uNIGHT
tPAWN
tQUEEN
tROOK
hIRCLE
m CONTAINING BLACK SMALL CIRCLE
nWITH DOT RIGHT
uWN ARROW
sLOWER LEFT QUADRANT
yRIGHT QUADRANT
sTWO DOTS
sUPPER LEFT QUADRANT
yRIGHT QUADRANT
hLUB SUIT
hONCAVE-SIDED DIAMOND
bb WITH LEFTWARDS TICK
bhRIGHTWARDS TICK
gDIAMOND
n CONTAINING BLACK MEDIUM DIAMOND
bfSMALL DIAMOND
bfVERY SMALL DIAMOND
oIN SQUARE
oSUIT
oWITH CENTRED DOT
hOWN POINTING BACKHAND INDEX
uINDEX
uLEFT HAND INDEX
k-POINTING SMALL TRIANGLE
uTRIANGLE
hRAUGHTS KING
pMAN
gEXCLAMATION MARK ORNAMENT
gFLAG
k WITH HORIZONTAL MIDDLE BLACK STRIPE
iORETTE
jWER
hOUR POINTED CUSP
tSTAR
hROWNING FACE
gHARD SHELL FLOPPY DISK
hEART
l SUIT
jVY CHECK MARK
mSALTIRE WITH ROUNDED CORNERS
iXAGON
hORIZONTAL ELLIPSE
iURGLASS
gLARGE SQUARE
iTIN CROSS
hEFT LANE MERGE
lPOINTING BACKHAND INDEX
uINDEX
k-POINTING POINTER
uSMALL TRIANGLE
uTRIANGLE
hOZENGE CONTAINING BLACK SMALL LOZENGE
gMEDIUM DIAMOND
nLOZENGE
nSMALL SQUARE
oQUARE
oTAR
hOON SELENA
gNIB
gPARALLELOGRAM
hENNANT
jTAGON
gQUESTION MARK ORNAMENT
gRECTANGLE
hIGHT POINTING BACKHAND INDEX
vINDEX
l-POINTING PENTAGON
wOINTER
vSMALL TRIANGLE
vTRIANGLE
gSCISSORS
hESAME DOT
hHOGI PIECE
hMALL LOZENGE
mSQUARE
nTAR
iILING FACE
hPADE SUIT
hQUARE
m BUTTON
nCONTAINING BLACK MEDIUM SQUARE
beSMALL SQUARE
beVERY SMALL SQUARE
nWITH CENTRE VERTICAL LINE
sLEFTWARDS TICK
tOWER LEFT QUADRANT
yRIGHT QUADRANT
sRIGHTWARDS TICK
tOUNDED CORNERS
sUPPER LEFT QUADRANT
yRIGHT QUADRANT
sVERTICAL BISECTING LINE
hTAR
hUN
j BEHIND CLOUD
w WITH RAIN
kWITH RAYS
pSMALL CLOUD
gTELEPHONE
hOUCHTONE TELEPHONE
hRAPEZIUM
iIANGLE CONTAINING SMALL WHITE TRIANGLE
hWO-WAY LEFT WAY TRAFFIC
gUP POINTING BACKHAND INDEX
sINDEX
i-POINTING CHEVRON
sSMALL TRIANGLE
sTRIANGLE
ba WITH DOT
gVERTICAL BAR
pELLIPSE
pRECTANGLE
jY SMALL SQUARE
f-FEATHERED RIGHTWARDS ARROW
bIDE-HEADED DOWNWARDS BARB ARROW
wHEAVY BARB ARROW
wLIGHT BARB ARROW
wMEDIUM BARB ARROW
wVERY HEAVY BARB ARROW
mLEFTWARDS BARB ARROW
wHEAVY BARB ARROW
wLIGHT BARB ARROW
wMEDIUM BARB ARROW
wVERY HEAVY BARB ARROW
mNORTH EAST BARB ARROW
xHEAVY BARB ARROW
xLIGHT BARB ARROW
xMEDIUM BARB ARROW
xVERY HEAVY BARB ARROW
sWEST BARB ARROW
xHEAVY BARB ARROW
xLIGHT BARB ARROW
xMEDIUM BARB ARROW
xVERY HEAVY BARB ARROW
mRIGHTWARDS BARB ARROW
xHEAVY BARB ARROW
xLIGHT BARB ARROW
xMEDIUM BARB ARROW
xVERY HEAVY BARB ARROW
mSOUTH EAST BARB ARROW
xHEAVY BARB ARROW
xLIGHT BARB ARROW
xMEDIUM BARB ARROW
xVERY HEAVY BARB ARROW
sWEST BARB ARROW
xHEAVY BARB ARROW
xLIGHT BARB ARROW
xMEDIUM BARB ARROW
xVERY HEAVY BARB ARROW
mUPWARDS BARB ARROW
uHEAVY BARB ARROW
uLIGHT BARB ARROW
uMEDIUM BARB ARROW
uVERY HEAVY BARB ARROW
cGGLY VERTICAL LINE
cLTED FLOWER
cND BLOWING FACE
fCHIME
eOW
dE GLASS
dKING FACE
cRED KEYBOARD
bJ
bOLF FACE
cMAN
f WITH BUNNY EARS
fS BOOTS
hCLOTHES
hHAT
hSANDAL
dENS SYMBOL
cN SIGN
cOD
cRD JOINER
fSEPARATOR MIDDLE DOT
dLD MAP
dM
dRIED FACE
bRAPPED PRESENT
cEATH PRODUCT
dNCH
dSTLERS
cITING HAND
aX IN A RECTANGLE BOX
b-RAY
bIANGQI BLACK CANNON
pHARIOT
oELEPHANT
oGENERAL
oHORSE
oMANDARIN
oSOLDIER
iRED CANNON
nHARIOT
mELEPHANT
mGENERAL
mHORSE
mMANDARIN
mSOLDIER
bOR
aYAWNING FACE
bELLOW HEART
cN SIGN
cZIDI COMBINING HAMZA MARK
rMADDA MARK
hHYPHENATION MARK
hLETTER BE
oCHHIM
qIM
pIM
oDAD
qL
oELIF
pT
pW
pYN
oFA
oGAF
oHAY
pHA
oJA
oKAF
pHAF
oLAM
r WITH DOT ABOVE
oMIM
oNUN
oOW
oPE
pHE
oQAF
oRA
pHA
oSAD
pE
pHIN
pIN
oTA
pHE
oUM
oVA
q ALTERNATE FORM
oWAW
oXA
pHEYN
oYOT
r WITH CIRCUMFLEX ABOVE
oZA
qL
pE
bI RADICAL BBUT
mUR
lCHE
mIP
mUOP
mY
nP
nT
lDDUR
mU
lGA
mEP
mGOP
nUO
mOT
lHMO
mXIT
nOP
nUO
lJJIE
nUT
nY
mO
lKE
mIT
lLI
nE
mYR
lMI
mOP
lNBIE
mYIP
nOP
mZUP
lOP
lPUT
mYT
lQOT
lSHAT
nOP
nUR
nY
mSI
lTAT
mU
lVEP
mUR
lWO
lYIT
mO
lZA
mOT
mUP
nR
mZIET
dSYLLABLE A
nP
nT
nX
mBA
oP
oT
oX
nBA
pP
pT
pX
oE
pP
pX
oI
pE
qP
qT
qX
pP
pT
pX
oO
pP
pT
pX
oU
pO
qP
qX
pP
pR
qX
pT
pX
oY
pP
pT
pX
nE
oP
oX
nI
oE
pP
pT
pX
oP
oT
oX
nO
oP
oT
oX
nU
oO
pP
pX
oP
oR
pX
oT
oX
nY
oP
oR
pX
oT
oX
mCA
oP
oT
oX
nE
oP
oX
nHA
pP
pT
pX
oE
pP
pT
pX
oO
pP
pT
pX
oU
pO
qP
qT
qX
pP
pR
qX
pX
oY
pP
pR
qX
pT
pX
nI
oE
pP
pT
pX
oP
oT
oX
nO
oP
oT
oX
nU
oO
pP
pX
oP
oR
pX
oT
oX
nY
oP
oR
pX
oT
oX
mDA
oP
oT
oX
nDA
pP
pT
pX
oE
pP
pX
oI
pE
qP
qX
pP
pT
pX
oO
pP
pT
pX
oU
pO
qP
qX
pP
pR
qX
pT
pX
nE
oP
oX
nI
oE
pP
pX
oP
oT
oX
nO
oP
oT
oX
nU
oO
pX
oP
oR
pX
oT
oX
mE
nX
mFA
oP
oT
oX
nI
oP
oT
oX
nO
oP
oX
nU
oP
oR
pX
oT
oX
nY
oP
oT
oX
mGA
oP
oT
oX
nE
oP
oT
oX
nGA
pP
pT
pX
oE
pP
pT
pX
oI
pE
qP
qX
pT
pX
oO
pP
pT
pX
oU
pO
qP
qT
qX
pP
pR
qX
pT
pX
nI
oE
pP
pT
pX
oP
oT
oX
nO
oP
oT
oX
nU
oO
pP
pT
pX
oP
oR
pX
oT
oX
mHA
oP
oT
oX
nE
oP
oX
nIE
pX
oT
nLA
pP
pT
pX
oE
pP
pX
oI
pE
qP
qX
pP
pT
pX
oO
pP
pX
oU
pO
qP
qX
pP
pR
qX
pT
pX
oY
pP
pR
qX
pT
pX
nMA
pP
pT
pX
oI
pE
qP
qX
pP
pT
pX
oO
pP
pT
pX
oU
pO
qP
qX
pP
pR
qX
pT
pX
oY
pP
pR
qX
pX
nNA
pP
pT
pX
oE
pP
pX
oI
pE
qP
qT
qX
pP
pT
pX
oOP
pT
pX
oUO
qX
pT
nO
oP
oT
oX
nUO
pP
pT
pX
nXA
pP
pT
pX
oE
pP
pX
oI
pE
qP
qT
qX
pP
pT
pX
oO
pP
pT
pX
oUO
qP
qT
qX
mI
nE
oP
oT
oX
nP
nT
oERATION MARK
nX
mJI
oE
pP
pT
pX
oP
oT
oX
nJI
pE
qP
qT
qX
pP
pT
pX
oO
pP
pT
pX
oU
pO
qP
qX
pP
pR
qX
pT
pX
oY
pP
pT
pX
nO
oP
oT
oX
nU
oO
pP
pT
pX
oP
oR
pX
oT
oX
nY
oP
oR
pX
oT
oX
mKA
oP
oT
oX
nE
oP
oT
oX
nI
oE
pP
pX
oP
oT
oX
nO
oP
oT
oX
nU
oO
pP
pX
oP
oR
pX
oT
oX
mLA
oP
oT
oX
nE
oP
oX
nI
oE
pP
pT
pX
oP
oT
oX
nO
oP
oT
oX
nU
oO
pP
pT
pX
oP
oR
pX
oT
oX
nY
oP
oR
pX
oT
oX
mMA
oP
oT
oX
nE
oX
nGA
pP
pT
pX
oE
pP
pX
oIE
qX
oO
pP
pT
pX
oU
pO
qP
qX
pP
pR
qX
pT
pX
nI
oE
pP
pX
oP
oT
oX
nO
oP
oT
oX
nU
oO
pP
pT
pX
oP
oR
pX
oT
oX
nY
oP
oT
oX
mNA
oP
oX
nBA
pP
pT
pX
oI
pE
qP
qX
pP
pT
pX
oO
pP
pT
pX
oU
pP
pR
qX
pT
pX
oY
pP
pR
qX
pT
pX
nDA
pP
pT
pX
oE
pP
pX
oI
pE
qX
pP
pT
pX
oO
pP
pT
pX
oU
pP
pR
qX
pT
pX
nE
oP
oX
nGA
pP
pT
pX
oE
pP
pX
oIE
qP
qX
oO
pP
pT
pX
oUO
qT
qX
nI
oE
pP
pX
oP
oT
oX
nJI
pE
qP
qT
qX
pP
pT
pX
oO
pP
pT
pX
oU
pO
qX
pP
pR
qX
pX
oY
pP
pR
qX
pT
pX
nO
oP
oT
oX
nRA
pP
pT
pX
oE
pP
pT
pX
oO
pP
pX
oU
pP
pR
qX
pT
pX
oY
pP
pR
qX
pT
pX
nU
oO
pP
pX
oP
oR
pX
oT
oX
nYI
pE
qP
qT
qX
pP
pT
pX
oO
pP
pT
pX
oU
pO
qP
qX
pP
pT
pX
nZA
pP
pT
pX
oE
pX
oI
pE
qP
qX
pP
pT
pX
oOP
pX
oU
pO
qX
pP
pR
qX
pX
oY
pP
pR
qX
pT
pX
mO
nP
nT
nX
mPA
oP
oT
oX
nI
oE
pP
pX
oP
oT
oX
nO
oP
oT
oX
nU
oO
pP
pX
oP
oR
pX
oT
oX
nY
oP
oR
pX
oT
oX
mQI
oE
pP
pT
pX
oP
oT
oX
nO
oP
oT
oX
nU
oO
pP
pT
pX
oP
oR
pX
oT
oX
nY
oP
oR
pX
oT
oX
mRA
oP
oT
oX
nE
oP
oX
nO
oP
oT
oX
nRA
pX
oE
pP
pT
pX
oO
pP
pT
pX
oU
pO
qX
pP
pR
qX
pT
pX
oY
pP
pR
qX
pT
pX
nU
oO
pP
pX
oP
oR
pX
oT
oX
nY
oP
oR
pX
oT
oX
mSA
oP
oT
oX
nE
oP
oX
nHA
pP
pT
pX
oE
pP
pT
pX
oO
pP
pT
pX
oU
pO
qP
qX
pP
pR
qX
pT
pX
oY
pP
pR
qX
pT
pX
nI
oE
pP
pX
oP
oT
oX
nO
oP
oT
oX
nSA
pP
pT
pX
oE
pP
pX
oI
pE
qP
qX
pP
pT
pX
oO
pP
pT
pX
oU
pP
pT
pX
oY
pP
pR
qX
pT
pX
nU
oO
pP
pX
oP
oR
pX
oT
oX
nY
oP
oR
pX
oT
oX
mTA
oP
oT
oX
nE
oP
oX
nI
oE
pP
pX
oP
oT
oX
nO
oP
oT
oX
nU
oO
pP
pT
pX
oP
oR
pX
oT
oX
mUO
oP
oX
mVA
oP
oT
oX
nEP
oX
nI
oE
pP
pT
pX
oP
oT
oX
nO
oP
oT
oX
nU
oP
oR
pX
oT
oX
nY
oP
oR
pX
oT
oX
mWA
oP
oT
oX
nE
oP
oX
nO
oP
oX
nU
oO
pP
pX
mXI
oE
pP
pT
pX
oP
oT
oX
nO
oP
oT
oX
nUO
pX
nY
oP
oR
pX
oT
oX
mYI
oE
pP
pT
pX
oP
oT
oX
nO
oP
oT
oX
nU
oO
pP
pT
pX
oP
oR
pX
oT
oX
nY
oP
oR
pX
oT
oX
mZA
oP
oT
oX
nE
oP
oX
nHA
pP
pT
pX
oE
pP
pT
pX
oO
pP
pT
pX
oU
pO
qP
qX
pP
pR
qX
pT
pX
oY
pP
pR
qX
pT
pX
nI
oE
pP
pX
oP
oT
oX
nO
oP
oT
oX
nU
oO
pP
pX
oP
oR
pX
oT
oX
nY
oP
oR
pX
oT
oX
nZA
pP
pT
pX
oE
pP
pX
oI
pE
qP
qT
qX
pP
pT
pX
oO
pP
pX
oU
pP
pR
qX
pX
oY
pP
pR
qX
pT
pX
cN YANG
bO-YO
aZ NOTATION BAG MEMBERSHIP
lDOMAIN ANTIRESTRICTION
lLEFT BINDING BRACKET
qIMAGE BRACKET
lRANGE ANTIRESTRICTION
mELATIONAL COMPOSITION
mIGHT BINDING BRACKET
rIMAGE BRACKET
lSCHEMA COMPOSITION
sPIPING
tROJECTION
mPOT
lTYPE COLON
bANABAZAR SQUARE CLOSING DOUBLE-LINED HEAD MARK
zHEAD MARK
tUSTER-FINAL LETTER LA
bmRA
bmVA
bmYA
zINITIAL LETTER RA
rFINAL CONSONANT MARK
rINITIAL DOUBLE-LINED HEAD MARK
zHEAD MARK
rLETTER -A
yA
yBA
zHA
yCA
zHA
yDA
zDA
baHA
zHA
zZA
baHA
yGA
zHA
yHA
yJA
yKA
zHA
zSSA
yLA
yMA
yNA
zGA
zNA
zYA
yPA
zHA
yRA
ySA
zHA
zSA
yTA
zHA
zSA
baHA
zTA
baHA
yVA
yYA
yZA
zHA
rMARK DOUBLE SHAD
wLONG TSHEG
wSHAD
wTSHEG
rSIGN ANUSVARA
wCANDRA WITH ORNAMENT
bcBINDU
bh WITH ORNAMENT
wVIRAMA
ySARGA
sUBJOINER
rVOWEL LENGTH MARK
xSIGN AI
bdU
bcE
bcI
bcO
bdE
bcREVERSED I
bcU
bdE
bEBRA FACE
cRO WIDTH JOINER
lNO-BREAK SPACE
nN-JOINER
lSPACE
cUS
bIPPER-MOUTH FACE
bNAMENNY COMBINING ATTACHING VERTICAL OMET
tLOWER TONAL RANGE INDICATOR
tMARK BORZAYA
yCHASHKA
bf POLNAYA
zURVED OMET
yDEMESTVENNY ZADERZHKA
zVOETOCHIE
yGORAZDO NIZKO ON LEFT
bpRIGHT
bmS KRYZHEM ON LEFT
bzRIGHT
bgVYSOKO
yKACHKA
zRYZH
bd ON LEFT
zUPNAYA
yLOMKA
yMALO POVYSHE ON LEFT
boRIGHT
blS KHOKHLOM ON LEFT
bzRIGHT
boRYZHEM
bmTRANNO
yNIZKO ON LEFT
bhRIGHT
beS KRYZHEM ON LEFT
brRIGHT
yOBLACHKO
zN
zTSECHKA
yPODCHASHIE
bi WITH VERTICAL STROKE
bbVERTKA
baVYSHE ON LEFT
bjRIGHT
bgS KHOKHLOM ON LEFT
buRIGHT
bjRYZHEM
bhTRANNO
yRAVNO
baZSEKA
ySKOBA
zOROCHYA NOZHKA
zREDNE ON LEFT
biRIGHT
zTRANNO MALO POVYSHE
yTIKHAYA
zOCHKA
zSATA ON LEFT
bhRIGHT
beS KRYZHEM
yUDARKA
yVYSOKO ON LEFT
biRIGHT
bfS KHOKHLOM ON LEFT
btRIGHT
biRYZHEM
yZADERZHKA
zELO
baVOK
tTONAL RANGE MARK MRACHNO
bkSVETLO
bkTRESVETLO
jNEUME CHASHKA
rELYUSTKA
pDEMESTVENNY KLYUCH
rRBITSA
qOUBLE ZAPYATAYA
qUDA
qVA V CHELNU
pFITA
pGOLUBCHIK BORZY
zMRACHNY
zSVETLY
zTIKHY
baRESVETLY
pKHAMILO
qLYUCH
qOBYLA
qRYUK
u TIKHY
sZH
qUFISMA
pMECHIK
v KLYUCHENEPOSTOYANNY
bdPOVODNY
bdVOY
wPOVODNY
pNEMKA
pOBLAKO
qSOKA
u KLYUCHEVAYA NEPOSTOYANNAYA
bhSVETLAYA
wRYUKOVAYA SVETLAYA
vSVETLAYA
vTRESVETLAYA
pPALKA
rRAKLIT
rUK
qEREVODKA
y NEPOSTOYANNAYA
qODCHASHIE
rLKULIZMY
pREVERSED CHELYUSTKA
qOG
pSKAMEYTSA DVOECHELNAYA KLYUCHEVAYA
bmNEPOSTOYANNAYA
bmPROSTAYA
bmSVETLAYA
zKLYUCHENEPOSTOYANNAYA
bgVAYA SVETLAYA
blTIKHAYA
zMRACHNAYA
zSVETLAYA
zTIKHAYA
baRESVETLAYA
qLOZHITIE
y S KRYZHEM
bbZAPYATOY
zZAKRYTOE
qTATYA
v NEPOSTOYANNAYA
wS DVUMYA ZAPYATYMI
yKRYZHEM
bf I ZAPYATOY
yROGOM
yZAPYATOY
bg I KRYZHEM
bjPODCHASHIEM
wZAKRYTAYA
bf S ZAPYATOY
rOPITSA
x S OCHKOM
yWITH SOROCHYA NOZHKA
rRELA DVOECHELNAYA
bi KLYUCHEVAYA
bfOKRYZHEVAYA
bgPOVODNAYA
bp KLYUCHEVAYA
wGROMNAYA
be WITH SINGLE ZAPYATAYA
baOKRYZHEVAYA
bl POVODNAYA
bbPOVODNAYA
bk WITH DOUBLE ZAPYATAYA
bqSINGLE ZAPYATAYA
wKLYUCHENEPOSTOYANNAYA
bdPOVODNAYA
xRYUKOVAYA
bg GROMNAYA
bp WITH SINGLE ZAPYATAYA
blOKRYZHEVAYA
bw POVODNAYA
bmPOVODNAYA
bv WITH DOUBLE ZAPYATAYA
cbSINGLE ZAPYATAYA
bhPOVODNAYA
bhTRYASKA
zZHEVAYA
wMRACHNOTIKHAYA
wNEPOSTOYANNAYA
wPOLUPOVODNAYA
yVODNAYA
xROSTAYA
wTIKHAYA PUTNAYA
xRYASOGLASNAYA
bcPOVODNAYA
bcSTRELNAYA
pVRAKHIYA KLYUCHEVAYA MRACHNAYA
bkPROSTAYA
bkSVETLAYA
bkTRESVETLAYA
yMRACHNAYA
yPROSTAYA
ySVETLAYA
yTRESVETLAYA
pZANOZHEK
rPYATAYA
qMEYTSA
jPRIZNAK MODIFIER DIRECTION FLIP
baKRYZH
baLEVEL-2
bg3
baROG
bOMBIE
bWJ
cNBSP
dJ
cSP"

/-- The number of leading characters a line's letters say it shares with the name before it. -/
def sharedCount (code : List Char) : Nat :=
  code.foldl (fun n c => 26 * n + (c.toNat - 97)) 0

/-- Whether a character is one of the lower-case letters that count a shared prefix. -/
def isCountLetter (c : Char) : Bool := 'a' ≤ c && c ≤ 'z'

/-- Whether one list of characters comes before another in the order of their codes. -/
def charsBefore : List Char → List Char → Bool
  | [], [] => false
  | [], _ :: _ => true
  | _ :: _, [] => false
  | a :: as, b :: bs => a < b || (a == b && charsBefore as bs)

/-- Whether a name, in upper case, is among the lines from here on, the name before them being
`previous`. The walk stops at the first name past it, since the lines are sorted. -/
def listedFrom (name : List Char) : List Char → List String → Bool
  | _, [] => false
  | previous, line :: rest =>
    let cs := line.toList
    let code := cs.takeWhile isCountLetter
    let current := previous.take (sharedCount code) ++ cs.drop code.length
    if current == name then true
    else if charsBefore name current then false
    else listedFrom name current rest

/-- Whether a name, in upper case, is a listed name or alias. -/
def isListedName (name : List Char) : Bool :=
  listedFrom name [] (characterNameText.splitOn "\n")

/-- The short names of the leading consonants of Hangul syllables, in order. -/
def hangulLeads : List String :=
  ["G", "GG", "N", "D", "DD", "R", "M", "B", "BB", "S", "SS", "", "J", "JJ", "C", "K", "T", "P", "H"]

/-- The short names of the vowels of Hangul syllables, in order. -/
def hangulVowels : List String :=
  ["A", "AE", "YA", "YAE", "EO", "E", "YEO", "YE", "O", "WA", "WAE", "OE", "YO", "U", "WEO", "WE",
    "WI", "YU", "EU", "YI", "I"]

/-- The short names of the trailing consonants of Hangul syllables, in order. -/
def hangulTails : List String :=
  ["", "G", "GG", "GS", "N", "NJ", "NH", "D", "L", "LG", "LM", "LB", "LS", "LT", "LP", "LH", "M",
    "B", "BS", "S", "SS", "NG", "J", "C", "K", "T", "P", "H"]

/-- The length of the longest short name that begins `cs`, none when none does. -/
def longestPart (parts : List String) (cs : List Char) : Option Nat :=
  parts.foldl (fun best part =>
    let p := part.toList
    if (cs.take p.length == p) && best.all (· < p.length) then some p.length else best) none

/-- Whether the text after `HANGUL SYLLABLE ` names a syllable: a leading consonant, a vowel and
a trailing consonant, each the longest short name that fits, and nothing after them. -/
def isSyllableName (cs : List Char) : Bool :=
  match longestPart hangulLeads cs with
  | none => false
  | some l =>
    let cs := cs.drop l
    match longestPart hangulVowels cs with
    | none => false
    | some v =>
      let cs := cs.drop v
      match longestPart hangulTails cs with
      | none => false
      | some t => cs.length == t

/-- The runs of CJK unified ideographs, first and last code point. -/
def unifiedIdeographRuns : List (Nat × Nat) :=
  [(0x3400, 0x4DBF), (0x4E00, 0x9FFF), (0x20000, 0x2A6DF), (0x2A700, 0x2B738), (0x2B740, 0x2B81D),
    (0x2B820, 0x2CEA1), (0x2CEB0, 0x2EBE0), (0x30000, 0x3134A)]

/-- The value of upper-case hexadecimal digits, none when some character is not one. -/
def upperHexValue? (cs : List Char) : Option Nat :=
  cs.foldlM (fun n c =>
    if '0' ≤ c && c ≤ '9' then some (16 * n + (c.toNat - 48))
    else if 'A' ≤ c && c ≤ 'F' then some (16 * n + (c.toNat - 55))
    else none) 0

/-- Whether the text after `CJK UNIFIED IDEOGRAPH-` names one: four or five upper-case hexadecimal
digits of a code point in a run of unified ideographs. -/
def isIdeographName (cs : List Char) : Bool :=
  (cs.length == 4 || cs.length == 5) &&
    match upperHexValue? cs with
    | some v => unifiedIdeographRuns.any fun (lo, hi) => lo ≤ v && v ≤ hi
    | none => false

/-- Whether a text names a character in a named escape. The forms made by rule are recognized
with their prefixes in upper case as written; any other name is looked up with its ASCII letters
in upper case. -/
def isCharacterName (name : String) : Bool :=
  let cs := name.toList
  let syllable := "HANGUL SYLLABLE ".toList
  let ideograph := "CJK UNIFIED IDEOGRAPH-".toList
  if cs.take syllable.length == syllable then isSyllableName (cs.drop syllable.length)
  else if cs.take ideograph.length == ideograph then isIdeographName (cs.drop ideograph.length)
  else isListedName (cs.map fun c => if 'a' ≤ c && c ≤ 'z' then Char.ofNat (c.toNat - 32) else c)

end SecScan.Text
